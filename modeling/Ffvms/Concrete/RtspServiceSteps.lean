/-
What each step of the RTSP service does to the proxy found under a key.

Every handler and callback changes the map entry by entry.  The lemmas below
state that change once, at the level of lookups, and the invariants of the
service are proved from them without unfolding a handler again.
-/

import Ffvms.Concrete.RtspService

namespace Ffvms.Concrete

variable {Client : Type} [DecidableEq Client]

namespace ProxyInfo

/-! ### Client sets of one proxy -/

theorem clients_insertClient (proxy : ProxyInfo Client) (client : Client) (phase other : Phase) :
    (proxy.insertClient client phase).clients other =
      if other = phase then insert client (proxy.clients other) else proxy.clients other := by
  cases phase <;> cases other <;> rfl

theorem clients_eraseClient (proxy : ProxyInfo Client) (client : Client) (phase other : Phase) :
    (proxy.eraseClient client phase).clients other =
      if other = phase then (proxy.clients other).erase client else proxy.clients other := by
  cases phase <;> cases other <;> rfl

@[simp] theorem identity_insertClient (proxy : ProxyInfo Client) (client : Client) (phase : Phase) :
    (proxy.insertClient client phase).identity = proxy.identity := by
  cases phase <;> rfl

@[simp] theorem identity_eraseClient (proxy : ProxyInfo Client) (client : Client) (phase : Phase) :
    (proxy.eraseClient client phase).identity = proxy.identity := by
  cases phase <;> rfl

@[simp] theorem registered_insertClient (proxy : ProxyInfo Client) (client : Client)
    (phase : Phase) : (proxy.insertClient client phase).registered = proxy.registered := by
  cases phase <;> rfl

@[simp] theorem registered_eraseClient (proxy : ProxyInfo Client) (client : Client)
    (phase : Phase) : (proxy.eraseClient client phase).registered = proxy.registered := by
  cases phase <;> rfl

@[simp] theorem sourceSdp_insertClient (proxy : ProxyInfo Client) (client : Client)
    (phase : Phase) : (proxy.insertClient client phase).sourceSdp = proxy.sourceSdp := by
  cases phase <;> rfl

@[simp] theorem sourceSdp_eraseClient (proxy : ProxyInfo Client) (client : Client)
    (phase : Phase) : (proxy.eraseClient client phase).sourceSdp = proxy.sourceSdp := by
  cases phase <;> rfl

omit [DecidableEq Client] in
@[simp] theorem clients_create (identity : Nat) (phase : Phase) :
    (create identity : ProxyInfo Client).clients phase = ∅ := by
  cases phase <;> rfl

@[simp] theorem identity_acceptSdp (proxy : ProxyInfo Client) (sdp : String) :
    (proxy.acceptSdp sdp).identity = proxy.identity := rfl

theorem mem_clients_acceptSdp {proxy : ProxyInfo Client} {sdp : String} {client : Client}
    {phase : Phase} :
    client ∈ (proxy.acceptSdp sdp).clients phase ↔
      (client ∈ proxy.clients phase ∧ phase ≠ .waitingSdp) ∨
        (client ∈ proxy.clients .waitingSdp ∧ phase = .beforePlay) := by
  cases phase <;> simp [acceptSdp, clients]

def Without (proxy : ProxyInfo Client) (client : Client) : Prop :=
  client ∉ proxy.beforeDescribeClients ∧ client ∉ proxy.waitingSdpClients ∧
    client ∉ proxy.beforePlayClients ∧ client ∉ proxy.playingClients

instance (proxy : ProxyInfo Client) (client : Client) : Decidable (proxy.Without client) :=
  inferInstanceAs (Decidable (_ ∧ _ ∧ _ ∧ _))

omit [DecidableEq Client] in
theorem without_iff {proxy : ProxyInfo Client} {client : Client} :
    proxy.Without client ↔ ∀ phase, client ∉ proxy.clients phase := by
  constructor
  · rintro ⟨first, second, third, fourth⟩ phase
    cases phase with
    | beforeDescribe => exact first
    | waitingSdp => exact second
    | beforePlay => exact third
    | playing => exact fourth
  · intro nowhere
    exact ⟨nowhere .beforeDescribe, nowhere .waitingSdp, nowhere .beforePlay, nowhere .playing⟩

theorem leave_eq_none_iff {proxy : ProxyInfo Client} {client : Client} :
    proxy.leave client = none ↔ proxy.Without client := by
  constructor
  · intro nowhere
    unfold leave at nowhere
    split_ifs at nowhere with first second third fourth
    exact ⟨first, second, third, fourth⟩
  · rintro ⟨first, second, third, fourth⟩
    unfold leave
    rw [if_neg first, if_neg second, if_neg third, if_neg fourth]

/-- A client that leaves was in the set it leaves.  The chain starts with the
clients that have not described, so a client that leaves another set is not
among them. -/
theorem leave_eq_some {proxy left : ProxyInfo Client} {client : Client}
    (leaves : proxy.leave client = some left) :
    ∃ phase, client ∈ proxy.clients phase ∧ left = proxy.eraseClient client phase ∧
      (client ∈ proxy.clients .beforeDescribe → phase = .beforeDescribe) := by
  unfold leave at leaves
  split_ifs at leaves with first second third fourth
  · exact ⟨.beforeDescribe, first, (Option.some.inj leaves).symm, fun _ => rfl⟩
  · exact ⟨.waitingSdp, second, (Option.some.inj leaves).symm, fun held => absurd held first⟩
  · exact ⟨.beforePlay, third, (Option.some.inj leaves).symm, fun held => absurd held first⟩
  · exact ⟨.playing, fourth, (Option.some.inj leaves).symm, fun held => absurd held first⟩

omit [DecidableEq Client] in
theorem needUnregistered_iff {proxy : ProxyInfo Client} :
    proxy.needUnregistered ↔ ∀ phase, phase ≠ .beforeDescribe → proxy.clients phase = ∅ := by
  constructor
  · rintro ⟨waiting, before, playing⟩ phase later
    cases phase with
    | beforeDescribe => exact absurd rfl later
    | waitingSdp => exact waiting
    | beforePlay => exact before
    | playing => exact playing
  · intro empty
    exact ⟨empty .waitingSdp (by decide), empty .beforePlay (by decide),
      empty .playing (by decide)⟩

/-- The proxy after `OnDescribe`.  The third branch inserts the client nowhere. -/
def described (proxy : ProxyInfo Client) (client : Client) : ProxyInfo Client :=
  if proxy.sourceSdp = "" ∧ proxy.waitingSdpClients = ∅ then
    (proxy.eraseClient client .beforeDescribe).insertClient client .waitingSdp
  else if proxy.sourceSdp ≠ "" then
    (proxy.eraseClient client .beforeDescribe).insertClient client .beforePlay
  else proxy.eraseClient client .beforeDescribe

def played (proxy : ProxyInfo Client) (client : Client) : ProxyInfo Client :=
  if client ∈ proxy.beforePlayClients then
    (proxy.eraseClient client .beforePlay).insertClient client .playing
  else proxy

@[simp] theorem identity_described (proxy : ProxyInfo Client) (client : Client) :
    (proxy.described client).identity = proxy.identity := by
  unfold described
  split_ifs <;> simp

@[simp] theorem sourceSdp_described (proxy : ProxyInfo Client) (client : Client) :
    (proxy.described client).sourceSdp = proxy.sourceSdp := by
  unfold described
  split_ifs <;> simp

@[simp] theorem registered_described (proxy : ProxyInfo Client) (client : Client) :
    (proxy.described client).registered = proxy.registered := by
  unfold described
  split_ifs <;> simp

@[simp] theorem identity_played (proxy : ProxyInfo Client) (client : Client) :
    (proxy.played client).identity = proxy.identity := by
  unfold played
  split_ifs <;> simp

@[simp] theorem sourceSdp_played (proxy : ProxyInfo Client) (client : Client) :
    (proxy.played client).sourceSdp = proxy.sourceSdp := by
  unfold played
  split_ifs <;> simp

@[simp] theorem registered_played (proxy : ProxyInfo Client) (client : Client) :
    (proxy.played client).registered = proxy.registered := by
  unfold played
  split_ifs <;> simp

def describeTarget (proxy : ProxyInfo Client) : Phase :=
  if proxy.sourceSdp = "" then .waitingSdp else .beforePlay

/-- A description is answered or registered, unless the proxy waits for its SDP
on behalf of an earlier client. -/
def DescribeInserts (proxy : ProxyInfo Client) : Prop :=
  proxy.sourceSdp = "" → proxy.waitingSdpClients = ∅

instance (proxy : ProxyInfo Client) : Decidable proxy.DescribeInserts :=
  inferInstanceAs (Decidable (_ → _))

theorem mem_clients_described {proxy : ProxyInfo Client} {client other : Client} {phase : Phase} :
    other ∈ (proxy.described client).clients phase ↔
      (other ∈ proxy.clients phase ∧ ¬(other = client ∧ phase = .beforeDescribe)) ∨
        (other = client ∧ phase = proxy.describeTarget ∧ proxy.DescribeInserts) := by
  by_cases silent : proxy.sourceSdp = ""
  · by_cases nobody : proxy.waitingSdpClients = ∅
    · cases phase <;>
        simp [described, describeTarget, DescribeInserts, silent, nobody, clients_insertClient,
          clients_eraseClient, and_comm]
      · simp [clients, nobody]
    · cases phase <;>
        simp [described, describeTarget, DescribeInserts, silent, nobody, clients_eraseClient,
          and_comm]
  · cases phase <;>
      simp [described, describeTarget, DescribeInserts, silent, clients_insertClient,
        clients_eraseClient, and_comm]
    · tauto

theorem mem_clients_played {proxy : ProxyInfo Client} {client other : Client} {phase : Phase} :
    other ∈ (proxy.played client).clients phase ↔
      (other ∈ proxy.clients phase ∧ ¬(other = client ∧ phase = .beforePlay)) ∨
        (other = client ∧ phase = .playing ∧ client ∈ proxy.beforePlayClients) := by
  by_cases ready : client ∈ proxy.beforePlayClients
  · cases phase <;>
      simp [played, ready, clients_insertClient, clients_eraseClient, and_comm]
    · tauto
  · cases phase <;> simp [played, ready]
    · rintro member rfl
      exact ready member

end ProxyInfo

namespace RtspService

/-! ### Lookups after a step -/

def keyOf (uri : String) : String := (VideoRequest.parseUrl uri).cmpStr

omit [DecidableEq Client] in
theorem storeProxy_find? (service : RtspService Client) (video other : VideoRequest)
    (found changed : ProxyInfo Client) (located : service.proxies.find? video = some found) :
    (service.storeProxy video changed).proxies.find? other =
      if other.cmpStr = video.cmpStr then some changed else service.proxies.find? other := by
  unfold storeProxy
  rw [OrderedMap.find?_modify]
  by_cases same : other.cmpStr = video.cmpStr
  · rw [if_pos same, if_pos same, OrderedMap.find?_congr _ same, located]
    rfl
  · rw [if_neg same, if_neg same]

/-- The proxy that `OnOptions` puts its client into: the one under the key, or
a new one. -/
def optionsProxy (service : RtspService Client) (uri : String) : ProxyInfo Client :=
  (service.proxies.find? (VideoRequest.parseUrl uri)).getD (.create service.nextIdentity)

theorem onOptions_find? (service : RtspService Client) (client : Client) (uri : String)
    (video : VideoRequest) :
    (service.onOptions client uri).service.proxies.find? video =
      if video.cmpStr = keyOf uri then
        some ((service.optionsProxy uri).insertClient client .beforeDescribe)
      else service.proxies.find? video := by
  cases located : service.proxies.find? (VideoRequest.parseUrl uri) with
  | none =>
      simp only [onOptions, optionsProxy, located, Option.getD_none, reply]
      exact OrderedMap.find?_insert service.proxies _ _ _
  | some proxy =>
      simp only [onOptions, optionsProxy, located, Option.getD_some, reply]
      exact storeProxy_find? service _ video proxy _ located

theorem onDescribe_of_none {service : RtspService Client} {client : Client} {uri : String}
    (located : service.proxies.find? (VideoRequest.parseUrl uri) = none) :
    service.onDescribe client uri = ⟨service, .code (-1), []⟩ := by
  simp only [onDescribe, located]

/-- The proxy under the key is replaced by the described one; the replies, the
registration and the calls depend on the branch. -/
theorem onDescribe_of_some {service : RtspService Client} {client : Client} {uri : String}
    {found : ProxyInfo Client}
    (located : service.proxies.find? (VideoRequest.parseUrl uri) = some found) :
    service.onDescribe client uri =
      let stored := service.storeProxy (VideoRequest.parseUrl uri) (found.described client)
      if found.sourceSdp = "" ∧ found.waitingSdpClients = ∅ then
        ⟨{ stored with pendingSdp := found.identity :: stored.pendingSdp }, .code 0,
          [.registerVideo (VideoRequest.parseUrl uri) found.identity]⟩
      else if found.sourceSdp ≠ "" then
        ⟨stored.reply client (.describe 200 found.sourceSdp), .code 0, []⟩
      else ⟨stored, .code 0, []⟩ := by
  have waitingSame : (found.eraseClient client .beforeDescribe).waitingSdpClients =
      found.waitingSdpClients := rfl
  simp only [onDescribe, located, waitingSame, ProxyInfo.sourceSdp_eraseClient,
    ProxyInfo.identity_eraseClient]
  split_ifs with first second
  · simp only [ProxyInfo.described, if_pos first]
  · simp only [ProxyInfo.described, if_neg first, if_pos second]
  · simp only [ProxyInfo.described, if_neg first, if_neg second]

theorem onDescribe_result {service : RtspService Client} {uri : String}
    {found : ProxyInfo Client} (client : Client)
    (located : service.proxies.find? (VideoRequest.parseUrl uri) = some found) :
    (service.onDescribe client uri).result = .code 0 := by
  rw [onDescribe_of_some located]
  dsimp only
  split_ifs <;> rfl

omit [DecidableEq Client] in
private theorem find?_of_unchanged (service : RtspService Client) (uri : String)
    (video : VideoRequest) (change : ProxyInfo Client → ProxyInfo Client)
    (located : service.proxies.find? (VideoRequest.parseUrl uri) = none) :
    service.proxies.find? video =
      if video.cmpStr = keyOf uri then (service.proxies.find? video).map change
      else service.proxies.find? video := by
  by_cases same : video.cmpStr = keyOf uri
  · rw [if_pos same, OrderedMap.find?_congr _ same, located]
    rfl
  · rw [if_neg same]

omit [DecidableEq Client] in
private theorem find?_of_changed (service : RtspService Client) (uri : String)
    (video : VideoRequest) (change : ProxyInfo Client → ProxyInfo Client)
    {found : ProxyInfo Client}
    (located : service.proxies.find? (VideoRequest.parseUrl uri) = some found) :
    (service.storeProxy (VideoRequest.parseUrl uri) (change found)).proxies.find? video =
      if video.cmpStr = keyOf uri then (service.proxies.find? video).map change
      else service.proxies.find? video := by
  unfold keyOf
  rw [storeProxy_find? service _ video found _ located]
  by_cases same : video.cmpStr = (VideoRequest.parseUrl uri).cmpStr
  · rw [if_pos same, if_pos same, OrderedMap.find?_congr service.proxies same, located]
    rfl
  · rw [if_neg same, if_neg same]

theorem onDescribe_find? (service : RtspService Client) (client : Client) (uri : String)
    (video : VideoRequest) :
    (service.onDescribe client uri).service.proxies.find? video =
      if video.cmpStr = keyOf uri then
        (service.proxies.find? video).map (fun proxy => proxy.described client)
      else service.proxies.find? video := by
  cases located : service.proxies.find? (VideoRequest.parseUrl uri) with
  | none =>
      rw [onDescribe_of_none located]
      exact find?_of_unchanged service uri video _ located
  | some found =>
      rw [onDescribe_of_some located, ← find?_of_changed service uri video
        (fun proxy => proxy.described client) located]
      dsimp only
      split_ifs <;> rfl

theorem onPlay_of_none {service : RtspService Client} {client : Client} {uri : String}
    {npt : Option Int} (located : service.proxies.find? (VideoRequest.parseUrl uri) = none) :
    service.onPlay client uri npt = ⟨service, .code (-1), []⟩ := by
  simp only [onPlay, located]

theorem onPlay_of_some {service : RtspService Client} {client : Client} {uri : String}
    {npt : Option Int} {found : ProxyInfo Client}
    (located : service.proxies.find? (VideoRequest.parseUrl uri) = some found) :
    service.onPlay client uri npt =
      if client ∈ found.beforePlayClients then
        ⟨(service.storeProxy (VideoRequest.parseUrl uri) (found.played client)).reply client
          (.play 200 npt), .ofReply, []⟩
      else ⟨service.reply client (.play 454 none), .ofReply, []⟩ := by
  simp only [onPlay, located]
  by_cases ready : client ∈ found.beforePlayClients
  · rw [if_neg (not_not_intro ready), if_pos ready]
    simp only [ProxyInfo.played, if_pos ready]
  · rw [if_pos ready, if_neg ready]

theorem onPlay_find? (service : RtspService Client) (client : Client) (uri : String)
    (npt : Option Int) (video : VideoRequest) :
    (service.onPlay client uri npt).service.proxies.find? video =
      if video.cmpStr = keyOf uri then
        (service.proxies.find? video).map (fun proxy => proxy.played client)
      else service.proxies.find? video := by
  cases located : service.proxies.find? (VideoRequest.parseUrl uri) with
  | none =>
      rw [onPlay_of_none located]
      exact find?_of_unchanged service uri video _ located
  | some found =>
      rw [onPlay_of_some located]
      by_cases ready : client ∈ found.beforePlayClients
      · rw [if_pos ready]
        exact find?_of_changed service uri video (fun proxy => proxy.played client) located
      · rw [if_neg ready]
        -- A refused PLAY leaves the proxy as it is, which is what `played` says.
        by_cases same : video.cmpStr = keyOf uri
        · rw [if_pos same]
          have here := (OrderedMap.find?_congr service.proxies same).trans located
          have still : found.played client = found := if_neg ready
          change service.proxies.find? video = _
          rw [here, Option.map_some, still]
        · rw [if_neg same]
          rfl

theorem processSdpFunction_find? (service : RtspService Client) (proxy : Nat) (sdp : String)
    (video : VideoRequest) :
    (service.processSdpFunction proxy sdp).proxies.find? video =
      (service.proxies.find? video).map
        (fun info => if info.identity = proxy then info.acceptSdp sdp else info) :=
  OrderedMap.find?_mapValues_const _ _ _

theorem onOptions_calls (service : RtspService Client) (client : Client) (uri : String) :
    (service.onOptions client uri).calls = [] := by
  cases located : service.proxies.find? (VideoRequest.parseUrl uri) with
  | none => simp only [onOptions, located]
  | some found => simp only [onOptions, located]

theorem onPlay_calls (service : RtspService Client) (client : Client) (uri : String)
    (npt : Option Int) : (service.onPlay client uri npt).calls = [] := by
  cases located : service.proxies.find? (VideoRequest.parseUrl uri) with
  | none => rw [onPlay_of_none located]
  | some found =>
      rw [onPlay_of_some located]
      split_ifs <;> rfl

def holder (service : RtspService Client) (client : Client) :
    Option (VideoRequest × ProxyInfo Client) :=
  service.proxies.entries.find? (fun entry => ¬entry.2.Without client)

theorem holder_eq_some {service : RtspService Client} {client : Client}
    {entry : VideoRequest × ProxyInfo Client} (held : service.holder client = some entry) :
    service.proxies.find? entry.1 = some entry.2 ∧ ¬entry.2.Without client := by
  refine ⟨OrderedMap.find?_of_mem (List.mem_of_find?_eq_some held), ?_⟩
  simpa using List.find?_some held

theorem closeScan_eq (service : RtspService Client) (client : Client) :
    service.closeScan client =
      (service.holder client).bind (fun entry => (entry.2.leave client).map (entry.1, ·)) := by
  unfold closeScan holder
  induction service.proxies.entries with
  | nil => rfl
  | cons entry rest ih =>
      by_cases outside : entry.2.Without client
      · rw [List.findSome?_cons_of_isNone, List.find?_cons_of_neg (by simpa using outside)]
        · exact ih
        · rw [ProxyInfo.leave_eq_none_iff.mpr outside]
          rfl
      · rw [List.find?_cons_of_pos (by simpa using outside)]
        cases leaves : entry.2.leave client with
        | none => exact absurd (ProxyInfo.leave_eq_none_iff.mp leaves) outside
        | some left =>
            rw [List.findSome?_cons_of_isSome (by rw [leaves]; rfl), leaves]
            simp [leaves]

/-- A close that finds its client nowhere changes nothing; otherwise it goes to
the first proxy that holds the client, takes it out of one set and keeps or
erases the proxy. -/
inductive CloseEffect (service : RtspService Client) (client : Client) :
    RtspService Client → Prop
  | absent (nowhere : ∀ video proxy phase, service.proxies.find? video = some proxy →
      client ∉ proxy.clients phase) : CloseEffect service client service
  | kept (video : VideoRequest) (proxy left : ProxyInfo Client)
      (held : service.holder client = some (video, proxy))
      (located : service.proxies.find? video = some proxy)
      (leaves : proxy.leave client = some left) (needed : ¬left.needUnregistered) :
      CloseEffect service client (service.storeProxy video left)
  | erased (video : VideoRequest) (proxy left : ProxyInfo Client)
      (held : service.holder client = some (video, proxy))
      (located : service.proxies.find? video = some proxy)
      (leaves : proxy.leave client = some left) (unneeded : left.needUnregistered) :
      CloseEffect service client { service with proxies := service.proxies.erase video }

theorem close_effect (service : RtspService Client) (client : Client) :
    CloseEffect service client (service.close client).service := by
  unfold close
  rw [closeScan_eq]
  cases held : service.holder client with
  | none =>
      apply CloseEffect.absent
      intro video proxy phase located
      obtain ⟨stored, _sameRank, member⟩ := OrderedMap.find?_eq_some_iff.mp located
      have missed := List.find?_eq_none.mp held _ member
      exact ProxyInfo.without_iff.mp (by simpa using missed) phase
  | some entry =>
      obtain ⟨located, inside⟩ := holder_eq_some held
      cases leaves : entry.2.leave client with
      | none => exact absurd (ProxyInfo.leave_eq_none_iff.mp leaves) inside
      | some left =>
          simp only [Option.bind_some, leaves, Option.map_some]
          by_cases unneeded : left.needUnregistered
          · rw [if_pos unneeded]
            exact .erased entry.1 entry.2 left held located leaves unneeded
          · rw [if_neg unneeded]
            exact .kept entry.1 entry.2 left held located leaves unneeded

/-! ### The proxy that a lookup after the step comes from -/

omit [DecidableEq Client] in
private theorem former_of_map {service : RtspService Client} {video : VideoRequest}
    {changed : ProxyInfo Client} {change : ProxyInfo Client → ProxyInfo Client}
    {condition : Prop} [Decidable condition]
    (lookup : (if condition then (service.proxies.find? video).map change
      else service.proxies.find? video) = some changed) :
    ∃ proxy, service.proxies.find? video = some proxy ∧
      changed = if condition then change proxy else proxy := by
  by_cases holds : condition
  · rw [if_pos holds] at lookup
    obtain ⟨proxy, found, same⟩ := Option.map_eq_some_iff.mp lookup
    exact ⟨proxy, found, by rw [if_pos holds, same]⟩
  · rw [if_neg holds] at lookup
    exact ⟨changed, lookup, by rw [if_neg holds]⟩

theorem onDescribe_former {service : RtspService Client} {client : Client} {uri : String}
    {video : VideoRequest} {changed : ProxyInfo Client}
    (lookup : (service.onDescribe client uri).service.proxies.find? video = some changed) :
    ∃ proxy, service.proxies.find? video = some proxy ∧
      changed = if video.cmpStr = keyOf uri then proxy.described client else proxy := by
  rw [onDescribe_find?] at lookup
  exact former_of_map lookup

theorem onPlay_former {service : RtspService Client} {client : Client} {uri : String}
    {npt : Option Int} {video : VideoRequest} {changed : ProxyInfo Client}
    (lookup : (service.onPlay client uri npt).service.proxies.find? video = some changed) :
    ∃ proxy, service.proxies.find? video = some proxy ∧
      changed = if video.cmpStr = keyOf uri then proxy.played client else proxy := by
  rw [onPlay_find?] at lookup
  exact former_of_map lookup

theorem processSdp_former {service : RtspService Client} {identity : Nat} {sdp : String}
    {video : VideoRequest} {changed : ProxyInfo Client}
    (lookup : (service.processSdpFunction identity sdp).proxies.find? video = some changed) :
    ∃ proxy, service.proxies.find? video = some proxy ∧
      changed = if proxy.identity = identity then proxy.acceptSdp sdp else proxy := by
  rw [processSdpFunction_find?] at lookup
  obtain ⟨proxy, found, same⟩ := Option.map_eq_some_iff.mp lookup
  exact ⟨proxy, found, same.symm⟩

/-- OPTIONS is the one step that creates a proxy. -/
theorem onOptions_former {service : RtspService Client} {client : Client} {uri : String}
    {video : VideoRequest} {changed : ProxyInfo Client}
    (lookup : (service.onOptions client uri).service.proxies.find? video = some changed) :
    (∃ proxy, service.proxies.find? video = some proxy ∧
        changed = if video.cmpStr = keyOf uri then proxy.insertClient client .beforeDescribe
          else proxy) ∨
      (video.cmpStr = keyOf uri ∧
        changed = (ProxyInfo.create service.nextIdentity).insertClient client .beforeDescribe ∧
        (service.onOptions client uri).service.nextIdentity = service.nextIdentity + 1) := by
  rw [onOptions_find?] at lookup
  by_cases same : video.cmpStr = keyOf uri
  · rw [if_pos same] at lookup
    have here := OrderedMap.find?_congr service.proxies same
    cases located : service.proxies.find? (VideoRequest.parseUrl uri) with
    | none =>
        refine Or.inr ⟨same, ?_, ?_⟩
        · rw [← Option.some.inj lookup, optionsProxy, located]
          rfl
        · simp only [onOptions, located, reply]
    | some found =>
        refine Or.inl ⟨found, here.trans located, ?_⟩
        rw [if_pos same, ← Option.some.inj lookup, optionsProxy, located]
        rfl
  · rw [if_neg same] at lookup
    exact Or.inl ⟨changed, lookup, by rw [if_neg same]⟩

theorem close_former {service : RtspService Client} {client : Client}
    {video : VideoRequest} {changed : ProxyInfo Client}
    (lookup : (service.close client).service.proxies.find? video = some changed) :
    ∃ proxy, service.proxies.find? video = some proxy ∧
      (changed = proxy ∨ (proxy.leave client = some changed ∧ ¬changed.needUnregistered)) := by
  have effect := close_effect service client
  generalize (service.close client).service = result at effect lookup
  cases effect with
  | absent nowhere => exact ⟨changed, lookup, Or.inl rfl⟩
  | kept key proxy left held located leaves needed =>
      rw [storeProxy_find? service key video proxy left located] at lookup
      by_cases same : video.cmpStr = key.cmpStr
      · rw [if_pos same] at lookup
        cases lookup
        exact ⟨proxy, (OrderedMap.find?_congr _ same).trans located, Or.inr ⟨leaves, needed⟩⟩
      · rw [if_neg same] at lookup
        exact ⟨changed, lookup, Or.inl rfl⟩
  | erased key proxy left held located leaves unneeded =>
      rw [OrderedMap.find?_erase] at lookup
      by_cases same : video.cmpStr = key.cmpStr
      · rw [if_pos same] at lookup
        cases lookup
      · rw [if_neg same] at lookup
        exact ⟨changed, lookup, Or.inl rfl⟩

/-! ### Proxies by identity -/

/-- The proxy object that a callback is bound to is still in the map. -/
def Live (service : RtspService Client) (identity : Nat) : Prop :=
  ∃ entry ∈ service.proxies.entries, entry.2.identity = identity

instance (service : RtspService Client) (identity : Nat) : Decidable (service.Live identity) :=
  inferInstanceAs (Decidable (∃ entry ∈ service.proxies.entries, entry.2.identity = identity))

omit [DecidableEq Client] in
theorem live_iff {service : RtspService Client} {identity : Nat} :
    service.Live identity ↔
      ∃ video proxy, service.proxies.find? video = some proxy ∧ proxy.identity = identity := by
  constructor
  · rintro ⟨entry, member, same⟩
    exact ⟨entry.1, entry.2, OrderedMap.find?_of_mem member, same⟩
  · rintro ⟨video, proxy, located, same⟩
    obtain ⟨stored, _sameRank, member⟩ := OrderedMap.find?_eq_some_iff.mp located
    exact ⟨(stored, proxy), member, same⟩

theorem boundTo_iff {service : RtspService Client} {identity : Nat} {phase : Phase}
    {client : Client} :
    service.boundTo identity phase client = true ↔
      ∃ video proxy, service.proxies.find? video = some proxy ∧ proxy.identity = identity ∧
        client ∈ proxy.clients phase := by
  constructor
  · intro bound
    obtain ⟨entry, member, same⟩ := List.any_eq_true.mp bound
    exact ⟨entry.1, entry.2, OrderedMap.find?_of_mem member, of_decide_eq_true same⟩
  · rintro ⟨video, proxy, located, same⟩
    obtain ⟨stored, _sameRank, member⟩ := OrderedMap.find?_eq_some_iff.mp located
    exact List.any_eq_true.mpr ⟨(stored, proxy), member, decide_eq_true same⟩

/-! ### Replies -/

def replies (service : RtspService Client) (client : Client) : Step Client → List Reply
  | .options sender _ => if client = sender then [.options 200] else []
  | .describe sender uri =>
      match service.proxies.find? (VideoRequest.parseUrl uri) with
      | none => []
      | some proxy =>
          if client = sender ∧ proxy.sourceSdp ≠ "" then [.describe 200 proxy.sourceSdp] else []
  | .play sender uri npt =>
      match service.proxies.find? (VideoRequest.parseUrl uri) with
      | none => []
      | some proxy =>
          if client = sender then
            if client ∈ proxy.beforePlayClients then [.play 200 npt] else [.play 454 none]
          else []
  | .processSdp proxy sdp =>
      if service.boundTo proxy .waitingSdp client then [.describe 200 sdp] else []
  | .consumePkt proxy data =>
      if service.boundTo proxy .playing client then [.interleaved (interleavedFrame data)] else []
  | .close _ | .processError _ => []

theorem reply_sent (service : RtspService Client) (client other : Client) (message : Reply) :
    (service.reply client message).sent other =
      service.sent other ++ if other = client then [message] else [] := by
  unfold reply
  by_cases same : other = client
  · simp only [if_pos same]
  · simp only [if_neg same, List.append_nil]

theorem close_sent (service : RtspService Client) (client : Client) :
    (service.close client).service.sent = service.sent := by
  have effect := close_effect service client
  generalize (service.close client).service = result at effect
  cases effect with
  | absent | kept | erased => rfl

theorem sent_next (service : RtspService Client) (step : Step Client) (client : Client) :
    (machine.next service step).sent client = service.sent client ++ service.replies client step := by
  cases step with
  | options sender uri =>
      change (service.onOptions sender uri).service.sent client = _
      cases located : service.proxies.find? (VideoRequest.parseUrl uri) with
      | none =>
          simp only [onOptions, located, reply_sent]
          rfl
      | some found =>
          simp only [onOptions, located, reply_sent]
          rfl
  | describe sender uri =>
      change (service.onDescribe sender uri).service.sent client = _
      cases located : service.proxies.find? (VideoRequest.parseUrl uri) with
      | none =>
          rw [onDescribe_of_none located]
          simp only [replies, located, List.append_nil]
      | some found =>
          rw [onDescribe_of_some located]
          simp only [replies, located]
          by_cases heard : found.sourceSdp = ""
          · by_cases nobody : found.waitingSdpClients = ∅
            · simp [heard, nobody, storeProxy]
            · simp [heard, nobody, storeProxy]
          · simp [heard, reply_sent, storeProxy]
  | play sender uri npt =>
      change (service.onPlay sender uri npt).service.sent client = _
      cases located : service.proxies.find? (VideoRequest.parseUrl uri) with
      | none =>
          rw [onPlay_of_none located]
          simp only [replies, located, List.append_nil]
      | some found =>
          rw [onPlay_of_some located]
          simp only [replies, located]
          by_cases own : client = sender
          · subst client
            by_cases ready : sender ∈ found.beforePlayClients
            · simp [ready, reply_sent, storeProxy]
            · simp [ready, reply_sent]
          · by_cases ready : sender ∈ found.beforePlayClients
            · simp [ready, own, reply_sent, storeProxy]
            · simp [ready, own, reply_sent]
  | close other =>
      change (service.close other).service.sent client = _
      rw [close_sent]
      exact (List.append_nil _).symm
  | processSdp proxy sdp =>
      simp only [machine, perform, processSdpFunction, replies]
      split_ifs <;> simp
  | consumePkt proxy data =>
      simp only [machine, perform, consumePktFunction, replies]
      split_ifs <;> simp
  | processError proxy => exact (List.append_nil _).symm

end RtspService

end Ffvms.Concrete
