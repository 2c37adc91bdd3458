/-
The invariant of the RTSP service.

Each proxy is sound on its own: clients wait only before the SDP, play only
after it, and a registration that has not answered keeps somebody waiting.  The
map as a whole keeps the identities of its proxies apart.  The invariant holds
in every run in which each registration delivers at most one SDP, and that SDP
is not the empty text.
-/

import Ffvms.Concrete.RtspServiceSteps

namespace Ffvms.Concrete

variable {Client : Type} [DecidableEq Client]

namespace ProxyInfo

def Speaks (proxy : ProxyInfo Client) : Prop :=
  ∀ client, client ∈ proxy.beforePlayClients ∨ client ∈ proxy.playingClients →
    proxy.sourceSdp ≠ ""

omit [DecidableEq Client] in
theorem speaks_create (identity : Nat) : (create identity : ProxyInfo Client).Speaks := by
  rintro client (member | member)
  · exact absurd member (Finset.notMem_empty client)
  · exact absurd member (Finset.notMem_empty client)

theorem Speaks.described {proxy : ProxyInfo Client} (speaks : proxy.Speaks) (client : Client) :
    (proxy.described client).Speaks := by
  unfold ProxyInfo.described
  split_ifs with registers answers
  · exact speaks
  · exact fun _ _ => answers
  · exact speaks

theorem Speaks.played {proxy : ProxyInfo Client} (speaks : proxy.Speaks) (client : Client) :
    (proxy.played client).Speaks := by
  unfold ProxyInfo.played
  split_ifs with ready
  · have heard := speaks client (Or.inl ready)
    exact fun _ _ => heard
  · exact speaks

theorem clients_leave {proxy left : ProxyInfo Client} {client : Client}
    (leaves : proxy.leave client = some left) (phase : Phase) :
    left.clients phase ⊆ proxy.clients phase := by
  obtain ⟨_, _, leftEq, _⟩ := leave_eq_some leaves
  rw [leftEq, clients_eraseClient]
  split_ifs
  · exact Finset.erase_subset _ _
  · exact Finset.Subset.refl _

theorem sourceSdp_leave {proxy left : ProxyInfo Client} {client : Client}
    (leaves : proxy.leave client = some left) : left.sourceSdp = proxy.sourceSdp := by
  obtain ⟨_, _, leftEq, _⟩ := leave_eq_some leaves
  rw [leftEq, sourceSdp_eraseClient]

theorem Speaks.left {proxy left : ProxyInfo Client} {client : Client} (speaks : proxy.Speaks)
    (leaves : proxy.leave client = some left) : left.Speaks := by
  rintro other (member | member)
  · rw [sourceSdp_leave leaves]
    exact speaks other (Or.inl (clients_leave leaves .beforePlay member))
  · rw [sourceSdp_leave leaves]
    exact speaks other (Or.inr (clients_leave leaves .playing member))

/-- `awaited` says that the SDP callback bound to this proxy is still with the
producer. -/
structure Sound (proxy : ProxyInfo Client) (awaited : Prop) : Prop where
  waits : awaited → proxy.waitingSdpClients.Nonempty
  silent : proxy.waitingSdpClients.Nonempty → proxy.sourceSdp = ""
  speaks : ∀ client, client ∈ proxy.beforePlayClients ∨ client ∈ proxy.playingClients →
    proxy.sourceSdp ≠ ""
  flag : proxy.registered = true ↔ proxy.sourceSdp ≠ ""

omit [DecidableEq Client] in
theorem Sound.create (identity : Nat) {awaited : Prop} (unbound : ¬awaited) :
    (create identity : ProxyInfo Client).Sound awaited :=
  { waits := fun bound => absurd bound unbound
    silent := fun _ => rfl
    speaks := speaks_create identity
    flag := by simp [ProxyInfo.create] }

theorem Sound.joined {proxy : ProxyInfo Client} {awaited : Prop} (sound : proxy.Sound awaited)
    (client : Client) : (proxy.insertClient client .beforeDescribe).Sound awaited :=
  ⟨sound.waits, sound.silent, sound.speaks, sound.flag⟩

omit [DecidableEq Client] in
theorem Sound.weaken {proxy : ProxyInfo Client} {awaited bound : Prop}
    (sound : proxy.Sound awaited) (implies : bound → awaited) : proxy.Sound bound :=
  ⟨fun held => sound.waits (implies held), sound.silent, sound.speaks, sound.flag⟩

theorem Sound.described {proxy : ProxyInfo Client} {awaited : Prop}
    (sound : proxy.Sound awaited) (client : Client) :
    (proxy.described client).Sound
      (awaited ∨ (proxy.sourceSdp = "" ∧ proxy.waitingSdpClients = ∅)) := by
  unfold ProxyInfo.described
  split_ifs with registers answers
  · exact
      { waits := fun _ => ⟨client, Finset.mem_insert_self client _⟩
        silent := fun _ => registers.1
        speaks := sound.speaks
        flag := sound.flag }
  · exact
      { waits := fun held => held.elim sound.waits (fun registers => absurd registers.1 answers)
        silent := fun waiting => absurd (sound.silent waiting) answers
        speaks := fun _ _ => answers
        flag := sound.flag }
  · exact
      { waits := fun held => held.elim sound.waits (fun both => absurd both registers)
        silent := sound.silent
        speaks := sound.speaks
        flag := sound.flag }

theorem Sound.played {proxy : ProxyInfo Client} {awaited : Prop} (sound : proxy.Sound awaited)
    (client : Client) : (proxy.played client).Sound awaited := by
  have speaks : (proxy.played client).Speaks := Speaks.played sound.speaks client
  unfold ProxyInfo.played at speaks ⊢
  split_ifs at speaks ⊢
  · exact ⟨sound.waits, sound.silent, speaks, sound.flag⟩
  · exact sound

theorem Sound.acceptSdp {proxy : ProxyInfo Client} {awaited bound : Prop} {sdp : String}
    (_sound : proxy.Sound awaited) (text : sdp ≠ "") (released : ¬bound) :
    (proxy.acceptSdp sdp).Sound bound :=
  { waits := fun held => absurd held released
    silent := fun waiting => absurd waiting (by simp [ProxyInfo.acceptSdp])
    speaks := fun _ _ => text
    flag := by simpa [ProxyInfo.acceptSdp] using text }

/-- A proxy that survives a close is still waited for: had the last waiting
client left, nobody would be in the later sets either and the proxy would have
been erased. -/
theorem Sound.left {proxy left : ProxyInfo Client} {awaited : Prop} {client : Client}
    (sound : proxy.Sound awaited) (leaves : proxy.leave client = some left)
    (needed : ¬left.needUnregistered) : left.Sound awaited := by
  obtain ⟨phase, _held, leftEq, _first⟩ := leave_eq_some leaves
  have shrinks := clients_leave leaves
  have sdpEq := sourceSdp_leave leaves
  have flagEq : left.registered = proxy.registered := by rw [leftEq, registered_eraseClient]
  refine
    { waits := ?_
      silent := ?_
      speaks := Speaks.left sound.speaks leaves
      flag := by rw [sdpEq, flagEq]; exact sound.flag }
  · intro held
    have mute := sound.silent (sound.waits held)
    by_contra nobody
    apply needed
    refine ⟨Finset.not_nonempty_iff_eq_empty.mp nobody, ?_, ?_⟩
    · apply Finset.eq_empty_of_forall_notMem
      intro other member
      exact sound.speaks other (Or.inl (shrinks .beforePlay member)) mute
    · apply Finset.eq_empty_of_forall_notMem
      intro other member
      exact sound.speaks other (Or.inr (shrinks .playing member)) mute
  · rintro ⟨other, member⟩
    rw [sdpEq]
    exact sound.silent ⟨other, shrinks .waitingSdp member⟩

def Asked (proxy : ProxyInfo Client) : Prop :=
  proxy.waitingSdpClients.Nonempty ∨ proxy.sourceSdp ≠ ""

theorem asked_described (proxy : ProxyInfo Client) (client : Client) :
    (proxy.described client).Asked := by
  unfold ProxyInfo.described
  split_ifs with registers heard
  · exact Or.inl ⟨client, Finset.mem_insert_self client _⟩
  · exact Or.inr heard
  · refine Or.inl (Finset.nonempty_iff_ne_empty.mpr ?_)
    intro nobody
    exact registers ⟨not_not.mp heard, nobody⟩

theorem Asked.played {proxy : ProxyInfo Client} (asked : proxy.Asked) (client : Client) :
    (proxy.played client).Asked := by
  unfold ProxyInfo.played
  split_ifs
  · exact asked
  · exact asked

omit [DecidableEq Client] in
/-- Whoever is left after a close that keeps the proxy waits for the SDP or has
had it. -/
theorem Speaks.asked {proxy : ProxyInfo Client} (speaks : proxy.Speaks)
    (needed : ¬proxy.needUnregistered) : proxy.Asked := by
  by_contra silent
  obtain ⟨nobody, mute⟩ := not_or.mp silent
  apply needed
  refine ⟨Finset.not_nonempty_iff_eq_empty.mp nobody, ?_, ?_⟩
  · apply Finset.eq_empty_of_forall_notMem
    intro other member
    exact mute (speaks other (Or.inl member))
  · apply Finset.eq_empty_of_forall_notMem
    intro other member
    exact mute (speaks other (Or.inr member))

end ProxyInfo

namespace RtspService

/-! ### The map -/

structure Consistent (service : RtspService Client) : Prop where
  sound : ∀ video proxy, service.proxies.find? video = some proxy →
    proxy.Sound (proxy.identity ∈ service.pendingSdp)
  distinct : ∀ first second proxy other, service.proxies.find? first = some proxy →
    service.proxies.find? second = some other → proxy.identity = other.identity →
      first.cmpStr = second.cmpStr
  fresh : ∀ video proxy, service.proxies.find? video = some proxy →
    proxy.identity < service.nextIdentity
  pendingFresh : ∀ identity ∈ service.pendingSdp, identity < service.nextIdentity
  pendingNodup : service.pendingSdp.Nodup

/-- Each registration delivers one SDP at most, and never the empty text. -/
def SdpDelivered (service : RtspService Client) : Step Client → Prop
  | .processSdp proxy sdp => sdp ≠ "" ∧ proxy ∈ service.pendingSdp
  | _ => True

instance (service : RtspService Client) :
    (step : Step Client) → Decidable (service.SdpDelivered step)
  | .processSdp proxy sdp =>
      inferInstanceAs (Decidable (sdp ≠ "" ∧ proxy ∈ service.pendingSdp))
  | .options _ _ | .describe _ _ | .play _ _ _ | .close _ | .consumePkt _ _
  | .processError _ => isTrue trivial

omit [DecidableEq Client] in
theorem consistent_initial : (initial : RtspService Client).Consistent :=
  { sound := by intro video proxy lookup; cases lookup
    distinct := by intro first second proxy other lookup; cases lookup
    fresh := by intro video proxy lookup; cases lookup
    pendingFresh := by intro identity member; cases member
    pendingNodup := List.nodup_nil }

/-- Identities are inherited.  A proxy that was not in the map takes the next
identity, and only under the one key that the step names. -/
structure Evolves (service result : RtspService Client) (key : String) : Prop where
  inherits : ∀ video proxy, result.proxies.find? video = some proxy →
    (∃ former, service.proxies.find? video = some former ∧ proxy.identity = former.identity) ∨
      (video.cmpStr = key ∧ proxy.identity = service.nextIdentity ∧
        service.nextIdentity < result.nextIdentity)
  grows : service.nextIdentity ≤ result.nextIdentity

omit [DecidableEq Client] in
theorem Evolves.fresh {service result : RtspService Client} {key : String}
    (evolves : Evolves service result key) (consistent : service.Consistent)
    (video : VideoRequest) (proxy : ProxyInfo Client)
    (lookup : result.proxies.find? video = some proxy) : proxy.identity < result.nextIdentity := by
  rcases evolves.inherits video proxy lookup with ⟨former, found, same⟩ | ⟨_, new, above⟩
  · have older := consistent.fresh video former found
    have grows := evolves.grows
    omega
  · omega

omit [DecidableEq Client] in
theorem Evolves.distinct {service result : RtspService Client} {key : String}
    (evolves : Evolves service result key) (consistent : service.Consistent)
    (first second : VideoRequest) (proxy other : ProxyInfo Client)
    (lookup : result.proxies.find? first = some proxy)
    (otherLookup : result.proxies.find? second = some other)
    (same : proxy.identity = other.identity) : first.cmpStr = second.cmpStr := by
  rcases evolves.inherits first proxy lookup with ⟨former, found, formerEq⟩ | ⟨firstKey, new, _⟩
  · rcases evolves.inherits second other otherLookup with
      ⟨former', found', formerEq'⟩ | ⟨_, new, _⟩
    · exact consistent.distinct first second former former' found found' (by omega)
    · have older := consistent.fresh first former found
      omega
  · rcases evolves.inherits second other otherLookup with
      ⟨former', found', formerEq'⟩ | ⟨secondKey, _, _⟩
    · have older := consistent.fresh second former' found'
      omega
    · exact firstKey.trans secondKey.symm

omit [DecidableEq Client] in
private theorem evolves_of_former {service result : RtspService Client}
    (counter : result.nextIdentity = service.nextIdentity)
    (inherits : ∀ video proxy, result.proxies.find? video = some proxy →
      ∃ former, service.proxies.find? video = some former ∧ proxy.identity = former.identity) :
    Evolves service result "" :=
  ⟨fun video proxy lookup => Or.inl (inherits video proxy lookup), counter.ge⟩

theorem onOptions_evolves (service : RtspService Client) (client : Client) (uri : String) :
    Evolves service (service.onOptions client uri).service (keyOf uri) := by
  constructor
  · intro video proxy lookup
    rcases onOptions_former lookup with ⟨former, found, changed⟩ | ⟨same, created, counter⟩
    · refine Or.inl ⟨former, found, ?_⟩
      rw [changed]
      split_ifs
      · rw [ProxyInfo.identity_insertClient]
      · rfl
    · refine Or.inr ⟨same, ?_, by omega⟩
      rw [created, ProxyInfo.identity_insertClient]
      rfl
  · cases located : service.proxies.find? (VideoRequest.parseUrl uri) with
    | none =>
        simp only [onOptions, located, reply]
        omega
    | some found =>
        simp only [onOptions, located, reply, storeProxy]
        omega

theorem onDescribe_nextIdentity (service : RtspService Client) (client : Client) (uri : String) :
    (service.onDescribe client uri).service.nextIdentity = service.nextIdentity := by
  cases located : service.proxies.find? (VideoRequest.parseUrl uri) with
  | none => rw [onDescribe_of_none located]
  | some found =>
      rw [onDescribe_of_some located]
      dsimp only
      split_ifs <;> rfl

theorem onDescribe_evolves (service : RtspService Client) (client : Client) (uri : String) :
    Evolves service (service.onDescribe client uri).service "" := by
  apply evolves_of_former (onDescribe_nextIdentity service client uri)
  intro video proxy lookup
  obtain ⟨former, found, changed⟩ := onDescribe_former lookup
  refine ⟨former, found, ?_⟩
  rw [changed]
  split_ifs
  · rw [ProxyInfo.identity_described]
  · rfl

theorem onPlay_unchanged (service : RtspService Client) (client : Client) (uri : String)
    (npt : Option Int) :
    (service.onPlay client uri npt).service.nextIdentity = service.nextIdentity ∧
      (service.onPlay client uri npt).service.pendingSdp = service.pendingSdp := by
  cases located : service.proxies.find? (VideoRequest.parseUrl uri) with
  | none =>
      rw [onPlay_of_none located]
      exact ⟨rfl, rfl⟩
  | some found =>
      rw [onPlay_of_some located]
      split_ifs <;> exact ⟨rfl, rfl⟩

theorem onPlay_evolves (service : RtspService Client) (client : Client) (uri : String)
    (npt : Option Int) : Evolves service (service.onPlay client uri npt).service "" := by
  apply evolves_of_former (onPlay_unchanged service client uri npt).1
  intro video proxy lookup
  obtain ⟨former, found, changed⟩ := onPlay_former lookup
  refine ⟨former, found, ?_⟩
  rw [changed]
  split_ifs
  · rw [ProxyInfo.identity_played]
  · rfl

theorem close_unchanged (service : RtspService Client) (client : Client) :
    (service.close client).service.nextIdentity = service.nextIdentity ∧
      (service.close client).service.pendingSdp = service.pendingSdp := by
  have effect := close_effect service client
  generalize (service.close client).service = result at effect
  cases effect with
  | absent nowhere => exact ⟨rfl, rfl⟩
  | kept key proxy left held located leaves needed => exact ⟨rfl, rfl⟩
  | erased key proxy left held located leaves unneeded => exact ⟨rfl, rfl⟩

theorem close_evolves (service : RtspService Client) (client : Client) :
    Evolves service (service.close client).service "" := by
  apply evolves_of_former (close_unchanged service client).1
  intro video proxy lookup
  obtain ⟨former, found, same | ⟨leaves, _needed⟩⟩ := close_former lookup
  · exact ⟨former, found, by rw [same]⟩
  · obtain ⟨phase, _held, leftEq, _first⟩ := ProxyInfo.leave_eq_some leaves
    exact ⟨former, found, by rw [leftEq, ProxyInfo.identity_eraseClient]⟩

theorem processSdp_evolves (service : RtspService Client) (identity : Nat) (sdp : String) :
    Evolves service (service.processSdpFunction identity sdp) "" := by
  refine evolves_of_former rfl ?_
  intro video proxy lookup
  obtain ⟨former, found, changed⟩ := processSdp_former lookup
  refine ⟨former, found, ?_⟩
  rw [changed]
  split_ifs <;> rfl

theorem step_evolves (service : RtspService Client) (step : Step Client) :
    ∃ key, Evolves service (machine.next service step) key := by
  cases step with
  | options client uri => exact ⟨_, onOptions_evolves service client uri⟩
  | describe client uri => exact ⟨_, onDescribe_evolves service client uri⟩
  | play client uri npt => exact ⟨_, onPlay_evolves service client uri npt⟩
  | close client => exact ⟨_, close_evolves service client⟩
  | processSdp proxy sdp => exact ⟨_, processSdp_evolves service proxy sdp⟩
  | consumePkt proxy data =>
      exact ⟨_, evolves_of_former rfl (fun video proxy lookup => ⟨proxy, lookup, rfl⟩)⟩
  | processError proxy =>
      exact ⟨_, evolves_of_former rfl (fun video proxy lookup => ⟨proxy, lookup, rfl⟩)⟩

/-! ### Preservation -/

theorem onOptions_pendingSdp (service : RtspService Client) (client : Client) (uri : String) :
    (service.onOptions client uri).service.pendingSdp = service.pendingSdp := by
  cases located : service.proxies.find? (VideoRequest.parseUrl uri) with
  | none => simp only [onOptions, located, reply]
  | some found => simp only [onOptions, located, reply, storeProxy]

/-- The description that finds neither an SDP nor a waiting client registers
the video, and no other one does. -/
theorem onDescribe_pendingSdp {service : RtspService Client} {uri : String}
    {found : ProxyInfo Client} (client : Client)
    (located : service.proxies.find? (VideoRequest.parseUrl uri) = some found) :
    (service.onDescribe client uri).service.pendingSdp =
      if found.sourceSdp = "" ∧ found.waitingSdpClients = ∅ then
        found.identity :: service.pendingSdp
      else service.pendingSdp := by
  rw [onDescribe_of_some located]
  dsimp only
  split_ifs <;> rfl

omit [DecidableEq Client] in
private theorem consistent_of_sound {service result : RtspService Client} {key : String}
    (consistent : service.Consistent) (evolves : Evolves service result key)
    (pending : result.pendingSdp = service.pendingSdp)
    (sound : ∀ video proxy, result.proxies.find? video = some proxy →
      proxy.Sound (proxy.identity ∈ service.pendingSdp)) :
    result.Consistent := by
  refine
    { sound := ?_
      distinct := evolves.distinct consistent
      fresh := evolves.fresh consistent
      pendingFresh := ?_
      pendingNodup := ?_ }
  · rw [pending]
    exact sound
  · intro identity member
    rw [pending] at member
    exact Nat.lt_of_lt_of_le (consistent.pendingFresh identity member) evolves.grows
  · rw [pending]
    exact consistent.pendingNodup

theorem consistent_options {service : RtspService Client} (consistent : service.Consistent)
    (client : Client) (uri : String) : (service.onOptions client uri).service.Consistent := by
  refine consistent_of_sound consistent (onOptions_evolves service client uri)
    (onOptions_pendingSdp service client uri) ?_
  intro video proxy lookup
  rcases onOptions_former lookup with ⟨former, found, changed⟩ | ⟨_, created, _⟩
  · rw [changed]
    split_ifs
    · rw [ProxyInfo.identity_insertClient]
      exact (consistent.sound video former found).joined client
    · exact consistent.sound video former found
  · rw [created, ProxyInfo.identity_insertClient]
    apply ProxyInfo.Sound.joined
    apply ProxyInfo.Sound.create
    intro member
    exact absurd (consistent.pendingFresh _ member) (Nat.lt_irrefl _)

theorem consistent_describe {service : RtspService Client} (consistent : service.Consistent)
    (client : Client) (uri : String) : (service.onDescribe client uri).service.Consistent := by
  have evolves := onDescribe_evolves service client uri
  cases located : service.proxies.find? (VideoRequest.parseUrl uri) with
  | none =>
      rw [onDescribe_of_none located]
      exact consistent
  | some found =>
      have pending := onDescribe_pendingSdp client located
      have atKey := consistent.sound _ found located
      by_cases registers : found.sourceSdp = "" ∧ found.waitingSdpClients = ∅
      · rw [if_pos registers] at pending
        have unbound : found.identity ∉ service.pendingSdp := by
          intro member
          have waiting := atKey.waits member
          rw [registers.2] at waiting
          exact Finset.not_nonempty_empty waiting
        refine
          { sound := ?_
            distinct := evolves.distinct consistent
            fresh := evolves.fresh consistent
            pendingFresh := ?_
            pendingNodup := ?_ }
        · intro video proxy lookup
          obtain ⟨former, lookupFormer, changed⟩ := onDescribe_former lookup
          rw [pending, changed]
          by_cases same : video.cmpStr = keyOf uri
          · rw [if_pos same]
            have formerEq : former = found := Option.some.inj
              (lookupFormer.symm.trans ((OrderedMap.find?_congr _ same).trans located))
            rw [formerEq]
            exact (atKey.described client).weaken (fun _ => Or.inr registers)
          · rw [if_neg same]
            apply (consistent.sound video former lookupFormer).weaken
            intro member
            rcases List.mem_cons.mp member with shared | older
            · exact absurd
                (consistent.distinct video _ former found lookupFormer located shared) same
            · exact older
        · intro identity member
          rw [onDescribe_nextIdentity]
          rw [pending] at member
          rcases List.mem_cons.mp member with new | older
          · rw [new]
            exact consistent.fresh _ found located
          · exact consistent.pendingFresh identity older
        · rw [pending]
          exact List.nodup_cons.mpr ⟨unbound, consistent.pendingNodup⟩
      · rw [if_neg registers] at pending
        refine consistent_of_sound consistent evolves pending ?_
        intro video proxy lookup
        obtain ⟨former, lookupFormer, changed⟩ := onDescribe_former lookup
        rw [changed]
        by_cases same : video.cmpStr = keyOf uri
        · rw [if_pos same, ProxyInfo.identity_described]
          have sound := consistent.sound video former lookupFormer
          exact (sound.described client).weaken Or.inl
        · rw [if_neg same]
          exact consistent.sound video former lookupFormer

theorem consistent_play {service : RtspService Client} (consistent : service.Consistent)
    (client : Client) (uri : String) (npt : Option Int) :
    (service.onPlay client uri npt).service.Consistent := by
  refine consistent_of_sound consistent (onPlay_evolves service client uri npt)
    (onPlay_unchanged service client uri npt).2 ?_
  intro video proxy lookup
  obtain ⟨former, found, changed⟩ := onPlay_former lookup
  have sound := consistent.sound video former found
  rw [changed]
  split_ifs
  · rw [ProxyInfo.identity_played]
    exact sound.played client
  · exact sound

theorem consistent_close {service : RtspService Client} (consistent : service.Consistent)
    (client : Client) : (service.close client).service.Consistent := by
  refine consistent_of_sound consistent (close_evolves service client)
    (close_unchanged service client).2 ?_
  intro video proxy lookup
  obtain ⟨former, found, same | ⟨leaves, needed⟩⟩ := close_former lookup
  · rw [same]
    exact consistent.sound video former found
  · obtain ⟨phase, _held, leftEq, _first⟩ := ProxyInfo.leave_eq_some leaves
    have sound := (consistent.sound video former found).left leaves needed
    have identityEq : proxy.identity = former.identity := by
      rw [leftEq, ProxyInfo.identity_eraseClient]
    rw [identityEq]
    exact sound

theorem consistent_processSdp {service : RtspService Client} (consistent : service.Consistent)
    {identity : Nat} {sdp : String} (text : sdp ≠ "") :
    (service.processSdpFunction identity sdp).Consistent := by
  have evolves := processSdp_evolves service identity sdp
  refine
    { sound := ?_
      distinct := evolves.distinct consistent
      fresh := evolves.fresh consistent
      pendingFresh := ?_
      pendingNodup := consistent.pendingNodup.erase identity }
  · intro video proxy lookup
    obtain ⟨former, found, rfl⟩ := processSdp_former lookup
    have sound := consistent.sound video former found
    by_cases bound : former.identity = identity
    · rw [if_pos bound]
      apply sound.acceptSdp text
      -- The callback was handed out once, so after this call nobody holds it.
      change former.identity ∉ service.pendingSdp.erase identity
      rw [bound]
      exact consistent.pendingNodup.not_mem_erase
    · rw [if_neg bound]
      exact sound.weaken List.mem_of_mem_erase
  · intro other member
    exact consistent.pendingFresh other (List.mem_of_mem_erase member)

theorem consistent_step {service : RtspService Client} {step : Step Client}
    (consistent : service.Consistent) (delivered : service.SdpDelivered step) :
    (machine.next service step).Consistent := by
  cases step with
  | options client uri => exact consistent_options consistent client uri
  | describe client uri => exact consistent_describe consistent client uri
  | play client uri npt => exact consistent_play consistent client uri npt
  | close client => exact consistent_close consistent client
  | processSdp proxy sdp => exact consistent_processSdp consistent delivered.1
  | consumePkt proxy data =>
      exact ⟨consistent.sound, consistent.distinct, consistent.fresh, consistent.pendingFresh,
        consistent.pendingNodup⟩
  | processError proxy =>
      exact ⟨consistent.sound, consistent.distinct, consistent.fresh, consistent.pendingFresh,
        consistent.pendingNodup⟩

theorem consistent_after {steps : List (Step Client)}
    (delivered : machine.Along SdpDelivered initial steps) :
    (after steps : RtspService Client).Consistent :=
  delivered.invariant Consistent
    (fun _ _ consistent disciplined => consistent_step consistent disciplined) consistent_initial

end RtspService

end Ffvms.Concrete
