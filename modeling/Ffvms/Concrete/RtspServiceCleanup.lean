/-
When `Close` takes a client out of the whole service.

`Close` stops at the first set in which it finds its client.  That is enough
exactly when no client is ever in two sets, and a client gets into a second set
exactly by an OPTIONS or an inserting DESCRIBE while it already has a place
elsewhere.  The main result states this for whole runs in both directions.
-/

import Ffvms.Concrete.RtspServiceSteps

namespace Ffvms.Concrete.RtspService

variable {Client : Type} [DecidableEq Client]

def CleanedUp (service : RtspService Client) (client : Client) : Prop :=
  ∀ entry ∈ service.proxies.entries, entry.2.Without client

instance (service : RtspService Client) (client : Client) :
    Decidable (service.CleanedUp client) :=
  inferInstanceAs (Decidable (∀ entry ∈ service.proxies.entries, entry.2.Without client))

def Placed (service : RtspService Client) (client : Client) (video : VideoRequest)
    (phase : Phase) : Prop :=
  ∃ proxy, service.proxies.find? video = some proxy ∧ client ∈ proxy.clients phase

def Sole (service : RtspService Client) (client : Client) : Prop :=
  ∀ first firstPhase second secondPhase, service.Placed client first firstPhase →
    service.Placed client second secondPhase →
      first.cmpStr = second.cmpStr ∧ firstPhase = secondPhase

omit [DecidableEq Client] in
theorem cleanedUp_iff {service : RtspService Client} {client : Client} :
    service.CleanedUp client ↔ ∀ video phase, ¬service.Placed client video phase := by
  unfold CleanedUp
  rw [OrderedMap.forall_entries_iff (fun proxy : ProxyInfo Client => proxy.Without client)]
  constructor
  · rintro clean video phase ⟨proxy, located, member⟩
    exact ProxyInfo.without_iff.mp (clean video proxy located) phase member
  · intro nowhere video proxy located
    exact ProxyInfo.without_iff.mpr
      (fun phase member => nowhere video phase ⟨proxy, located, member⟩)

/-! ### Places after a step -/

theorem placed_options {service : RtspService Client} {client other : Client} {uri : String}
    {video : VideoRequest} {phase : Phase} :
    (service.onOptions client uri).service.Placed other video phase ↔
      service.Placed other video phase ∨
        (other = client ∧ video.cmpStr = keyOf uri ∧ phase = .beforeDescribe) := by
  unfold Placed
  rw [onOptions_find?]
  by_cases same : video.cmpStr = keyOf uri
  · rw [if_pos same]
    simp only [Option.some.injEq, exists_eq_left', ProxyInfo.clients_insertClient, same, true_and]
    have here : service.proxies.find? video =
        service.proxies.find? (VideoRequest.parseUrl uri) := OrderedMap.find?_congr _ same
    have before : other ∈ (service.optionsProxy uri).clients phase ↔
        ∃ proxy, service.proxies.find? video = some proxy ∧ other ∈ proxy.clients phase := by
      unfold optionsProxy
      rw [here]
      cases service.proxies.find? (VideoRequest.parseUrl uri) with
      | none => simp
      | some proxy => simp
    rw [← before]
    by_cases joined : phase = .beforeDescribe
    · rw [if_pos joined, Finset.mem_insert]
      tauto
    · rw [if_neg joined]
      tauto
  · rw [if_neg same]
    simp only [same, false_and, and_false, or_false]

theorem placed_describe {service : RtspService Client} {client other : Client} {uri : String}
    {video : VideoRequest} {phase : Phase} :
    (service.onDescribe client uri).service.Placed other video phase ↔
      (service.Placed other video phase ∧
          ¬(other = client ∧ video.cmpStr = keyOf uri ∧ phase = .beforeDescribe)) ∨
        (other = client ∧ video.cmpStr = keyOf uri ∧
          ∃ proxy, service.proxies.find? video = some proxy ∧
            phase = proxy.describeTarget ∧ proxy.DescribeInserts) := by
  unfold Placed
  rw [onDescribe_find?]
  by_cases same : video.cmpStr = keyOf uri
  · rw [if_pos same]
    cases service.proxies.find? video with
    | none => simp
    | some proxy =>
        simp only [Option.map_some, Option.some.injEq, exists_eq_left',
          ProxyInfo.mem_clients_described, same, true_and]
  · rw [if_neg same]
    simp only [same, false_and, and_false, not_false_eq_true, and_true, or_false]

theorem placed_play {service : RtspService Client} {client other : Client} {uri : String}
    {npt : Option Int} {video : VideoRequest} {phase : Phase} :
    (service.onPlay client uri npt).service.Placed other video phase ↔
      (service.Placed other video phase ∧
          ¬(other = client ∧ video.cmpStr = keyOf uri ∧ phase = .beforePlay)) ∨
        (other = client ∧ video.cmpStr = keyOf uri ∧ phase = .playing ∧
          service.Placed client video .beforePlay) := by
  unfold Placed
  rw [onPlay_find?]
  by_cases same : video.cmpStr = keyOf uri
  · rw [if_pos same]
    cases service.proxies.find? video with
    | none => simp
    | some proxy =>
        simp only [Option.map_some, Option.some.injEq, exists_eq_left',
          ProxyInfo.mem_clients_played, same, true_and]
        rfl
  · rw [if_neg same]
    simp only [same, false_and, and_false, not_false_eq_true, and_true, or_false]

theorem placed_processSdp {service : RtspService Client} {identity : Nat} {sdp : String}
    {client : Client} {video : VideoRequest} {phase : Phase}
    (placed : (service.processSdpFunction identity sdp).Placed client video phase) :
    ∃ proxy former, service.proxies.find? video = some proxy ∧ client ∈ proxy.clients former ∧
      phase = if proxy.identity = identity ∧ former = .waitingSdp then .beforePlay else former := by
  obtain ⟨changed, located, member⟩ := placed
  obtain ⟨proxy, found, rfl⟩ := processSdp_former located
  by_cases bound : proxy.identity = identity
  · rw [if_pos bound] at member
    rcases ProxyInfo.mem_clients_acceptSdp.mp member with ⟨kept, elsewhere⟩ | ⟨waiting, moved⟩
    · exact ⟨proxy, phase, found, kept, by rw [if_neg (fun both => elsewhere both.2)]⟩
    · exact ⟨proxy, .waitingSdp, found, waiting, by rw [if_pos ⟨bound, rfl⟩, moved]⟩
  · rw [if_neg bound] at member
    exact ⟨proxy, phase, found, member, by rw [if_neg (fun both => bound both.1)]⟩

theorem placed_of_close {service : RtspService Client} {client other : Client}
    {video : VideoRequest} {phase : Phase}
    (placed : (service.close client).service.Placed other video phase) :
    service.Placed other video phase := by
  obtain ⟨changed, located, member⟩ := placed
  obtain ⟨proxy, found, same | ⟨leaves, _needed⟩⟩ := close_former located
  · rw [same] at member
    exact ⟨proxy, found, member⟩
  · obtain ⟨former, _held, leftEq, _first⟩ := ProxyInfo.leave_eq_some leaves
    refine ⟨proxy, found, ?_⟩
    rw [leftEq, ProxyInfo.clients_eraseClient] at member
    by_cases here : phase = former
    · rw [if_pos here] at member
      exact Finset.mem_of_mem_erase member
    · rw [if_neg here] at member
      exact member

/-- A close removes exactly one of the places of its client, if it has one.
When the proxy is erased the client had no second place in it: the other sets
are empty, and a client that has not described is found there first. -/
theorem close_removes_one {service : RtspService Client} {client : Client}
    {video : VideoRequest} {phase : Phase} (placed : service.Placed client video phase) :
    ∃ removed former, service.Placed client removed former ∧
      ∀ other otherPhase, service.Placed client other otherPhase →
        ¬(other.cmpStr = removed.cmpStr ∧ otherPhase = former) →
          (service.close client).service.Placed client other otherPhase := by
  have effect := close_effect service client
  generalize (service.close client).service = result at effect
  cases effect with
  | absent nowhere =>
      obtain ⟨proxy, located, member⟩ := placed
      exact absurd member (nowhere video proxy phase located)
  | kept key proxy left _held located leaves needed =>
      obtain ⟨former, held, leftEq, _first⟩ := ProxyInfo.leave_eq_some leaves
      refine ⟨key, former, ⟨proxy, located, held⟩, ?_⟩
      rintro other otherPhase ⟨found, lookup, member⟩ elsewhere
      unfold Placed
      rw [storeProxy_find? service key other proxy left located]
      by_cases same : other.cmpStr = key.cmpStr
      · rw [if_pos same]
        refine ⟨left, rfl, ?_⟩
        have foundEq : found = proxy := Option.some.inj
          (lookup.symm.trans ((OrderedMap.find?_congr _ same).trans located))
        have different : otherPhase ≠ former := fun equal => elsewhere ⟨same, equal⟩
        rw [leftEq, ProxyInfo.clients_eraseClient, if_neg different, ← foundEq]
        exact member
      · rw [if_neg same]
        exact ⟨found, lookup, member⟩
  | erased key proxy left _held located leaves unneeded =>
      obtain ⟨former, held, leftEq, first⟩ := ProxyInfo.leave_eq_some leaves
      refine ⟨key, former, ⟨proxy, located, held⟩, ?_⟩
      rintro other otherPhase ⟨found, lookup, member⟩ elsewhere
      unfold Placed
      rw [OrderedMap.find?_erase]
      by_cases same : other.cmpStr = key.cmpStr
      · exfalso
        have foundEq : found = proxy := Option.some.inj
          (lookup.symm.trans ((OrderedMap.find?_congr _ same).trans located))
        rw [foundEq] at member
        have different : otherPhase ≠ former := fun equal => elsewhere ⟨same, equal⟩
        have later : otherPhase ≠ .beforeDescribe := by
          intro equal
          rw [equal] at member different
          exact different (first member).symm
        have emptied := ProxyInfo.needUnregistered_iff.mp unneeded otherPhase later
        rw [leftEq, ProxyInfo.clients_eraseClient, if_neg different] at emptied
        rw [emptied] at member
        exact Finset.notMem_empty client member
      · rw [if_neg same]
        exact ⟨found, lookup, member⟩

theorem close_clears_sole {service : RtspService Client} {client : Client}
    (sole : service.Sole client) (video : VideoRequest) (phase : Phase) :
    ¬(service.close client).service.Placed client video phase := by
  intro placed
  have before := placed_of_close placed
  have effect := close_effect service client
  generalize (service.close client).service = result at effect placed
  cases effect with
  | absent nowhere =>
      obtain ⟨proxy, located, member⟩ := placed
      exact nowhere video proxy phase located member
  | kept key proxy left _held located leaves needed =>
      obtain ⟨former, held, leftEq, _first⟩ := ProxyInfo.leave_eq_some leaves
      obtain ⟨same, phaseEq⟩ := sole video phase key former before ⟨proxy, located, held⟩
      obtain ⟨found, lookup, member⟩ := placed
      rw [storeProxy_find? service key video proxy left located, if_pos same] at lookup
      rw [← Option.some.inj lookup, leftEq, ProxyInfo.clients_eraseClient, if_pos phaseEq]
        at member
      exact Finset.notMem_erase client _ member
  | erased key proxy left _held located leaves unneeded =>
      obtain ⟨former, held, _leftEq, _first⟩ := ProxyInfo.leave_eq_some leaves
      obtain ⟨same, _phaseEq⟩ := sole video phase key former before ⟨proxy, located, held⟩
      obtain ⟨found, lookup, _member⟩ := placed
      rw [OrderedMap.find?_erase, if_pos same] at lookup
      cases lookup

/-- In any state, `Close` cleans up exactly for the clients with at most one place. -/
theorem close_cleanedUp_iff {service : RtspService Client} {client : Client} :
    (service.close client).service.CleanedUp client ↔ service.Sole client := by
  constructor
  · intro clean first firstPhase second secondPhase inFirst inSecond
    rw [cleanedUp_iff] at clean
    obtain ⟨removed, former, _held, others⟩ := close_removes_one inFirst
    have atRemoved : ∀ video phase, service.Placed client video phase →
        video.cmpStr = removed.cmpStr ∧ phase = former := by
      intro video phase placed
      by_contra elsewhere
      exact clean video phase (others video phase placed elsewhere)
    obtain ⟨firstKey, firstEq⟩ := atRemoved first firstPhase inFirst
    obtain ⟨secondKey, secondEq⟩ := atRemoved second secondPhase inSecond
    exact ⟨firstKey.trans secondKey.symm, firstEq.trans secondEq.symm⟩
  · intro sole
    exact cleanedUp_iff.mpr (close_clears_sole sole)

/-! ### Runs -/

/-- A request that gives its client no second place.  An OPTIONS comes from a
client that is nowhere else than among those that have not described the same
video; a DESCRIBE that inserts its client comes from one that is, besides, at
most in the set into which it is inserted. -/
def SoleRequest (service : RtspService Client) : Step Client → Prop
  | .options client uri => ∀ video phase, service.Placed client video phase →
      video.cmpStr = keyOf uri ∧ phase = .beforeDescribe
  | .describe client uri => ∀ proxy,
      service.proxies.find? (VideoRequest.parseUrl uri) = some proxy → proxy.DescribeInserts →
        ∀ video phase, service.Placed client video phase →
          video.cmpStr = keyOf uri ∧ (phase = .beforeDescribe ∨ phase = proxy.describeTarget)
  | _ => True

def EverySole (service : RtspService Client) : Prop := ∀ client, service.Sole client

theorem everySole_options {service : RtspService Client} {client : Client} {uri : String}
    (sole : service.EverySole) (guard : service.SoleRequest (.options client uri)) :
    (service.onOptions client uri).service.EverySole := by
  intro other first firstPhase second secondPhase inFirst inSecond
  have located (video : VideoRequest) (phase : Phase)
      (placed : service.Placed client video phase ∨
        (client = client ∧ video.cmpStr = keyOf uri ∧ phase = .beforeDescribe)) :
      video.cmpStr = keyOf uri ∧ phase = .beforeDescribe := by
    rcases placed with older | newer
    · exact guard video phase older
    · exact newer.2
  rw [placed_options] at inFirst inSecond
  by_cases requester : other = client
  · subst other
    obtain ⟨firstKey, firstEq⟩ := located first firstPhase inFirst
    obtain ⟨secondKey, secondEq⟩ := located second secondPhase inSecond
    exact ⟨firstKey.trans secondKey.symm, firstEq.trans secondEq.symm⟩
  · have olderFirst := inFirst.resolve_right (fun newer => requester newer.1)
    have olderSecond := inSecond.resolve_right (fun newer => requester newer.1)
    exact sole other first firstPhase second secondPhase olderFirst olderSecond

theorem everySole_describe {service : RtspService Client} {client : Client} {uri : String}
    (sole : service.EverySole) (guard : service.SoleRequest (.describe client uri)) :
    (service.onDescribe client uri).service.EverySole := by
  intro other first firstPhase second secondPhase inFirst inSecond
  rw [placed_describe] at inFirst inSecond
  rcases inFirst with ⟨oldFirst, stayedFirst⟩ | ⟨rfl, firstKey, proxy, lookup, firstEq, inserts⟩
  · rcases inSecond with ⟨oldSecond, _⟩ | ⟨rfl, secondKey, proxy, lookup, secondEq, inserts⟩
    · exact sole other first firstPhase second secondPhase oldFirst oldSecond
    · have atKey := (OrderedMap.find?_congr service.proxies secondKey.symm).trans lookup
      obtain ⟨firstKey, before | target⟩ := guard proxy atKey inserts first firstPhase oldFirst
      · exact absurd ⟨rfl, firstKey, before⟩ stayedFirst
      · exact ⟨firstKey.trans secondKey.symm, target.trans secondEq.symm⟩
  · have atKey := (OrderedMap.find?_congr service.proxies firstKey.symm).trans lookup
    rcases inSecond with ⟨oldSecond, stayedSecond⟩ | ⟨_, secondKey, other, lookupOther, secondEq, _⟩
    · obtain ⟨secondKey, before | target⟩ := guard proxy atKey inserts second secondPhase oldSecond
      · exact absurd ⟨rfl, secondKey, before⟩ stayedSecond
      · exact ⟨firstKey.trans secondKey.symm, firstEq.trans target.symm⟩
    · have same := firstKey.trans secondKey.symm
      have proxyEq : other = proxy := Option.some.inj
        (lookupOther.symm.trans ((OrderedMap.find?_congr _ same.symm).trans lookup))
      rw [proxyEq] at secondEq
      exact ⟨same, firstEq.trans secondEq.symm⟩

theorem sole_play {service : RtspService Client} {client other : Client} {uri : String}
    {npt : Option Int} (sole : service.Sole other) :
    (service.onPlay client uri npt).service.Sole other := by
  intro first firstPhase second secondPhase inFirst inSecond
  rw [placed_play] at inFirst inSecond
  rcases inFirst with ⟨oldFirst, stayedFirst⟩ | ⟨rfl, firstKey, firstEq, ready⟩
  · rcases inSecond with ⟨oldSecond, _⟩ | ⟨rfl, secondKey, _, ready⟩
    · exact sole first firstPhase second secondPhase oldFirst oldSecond
    · obtain ⟨same, phaseEq⟩ := sole first firstPhase second .beforePlay oldFirst ready
      exact absurd ⟨rfl, same.trans secondKey, phaseEq⟩ stayedFirst
  · rcases inSecond with ⟨oldSecond, stayedSecond⟩ | ⟨_, secondKey, secondEq, _⟩
    · obtain ⟨same, phaseEq⟩ := sole second secondPhase first .beforePlay oldSecond ready
      exact absurd ⟨rfl, same.trans firstKey, phaseEq⟩ stayedSecond
    · exact ⟨firstKey.trans secondKey.symm, firstEq.trans secondEq.symm⟩

theorem sole_processSdp {service : RtspService Client} {identity : Nat} {sdp : String}
    {client : Client} (sole : service.Sole client) :
    (service.processSdpFunction identity sdp).Sole client := by
  intro first firstPhase second secondPhase inFirst inSecond
  obtain ⟨proxy, former, lookup, member, firstEq⟩ := placed_processSdp inFirst
  obtain ⟨proxy', former', lookup', member', secondEq⟩ := placed_processSdp inSecond
  obtain ⟨same, formerEq⟩ := sole first former second former'
    ⟨proxy, lookup, member⟩ ⟨proxy', lookup', member'⟩
  have proxyEq : proxy = proxy' := Option.some.inj
    (lookup.symm.trans ((OrderedMap.find?_congr _ same).trans lookup'))
  rw [firstEq, secondEq, proxyEq, formerEq]
  exact ⟨same, rfl⟩

theorem sole_close {service : RtspService Client} {client other : Client}
    (sole : service.Sole other) : (service.close client).service.Sole other := by
  intro first firstPhase second secondPhase inFirst inSecond
  exact sole first firstPhase second secondPhase (placed_of_close inFirst)
    (placed_of_close inSecond)

theorem everySole_step {service : RtspService Client} {step : Step Client}
    (sole : service.EverySole) (guard : service.SoleRequest step) :
    (machine.next service step).EverySole := by
  cases step with
  | options client uri => exact everySole_options sole guard
  | describe client uri => exact everySole_describe sole guard
  | play client uri npt => exact fun other => sole_play (sole other)
  | close client => exact fun other => sole_close (sole other)
  | processSdp proxy sdp => exact fun other => sole_processSdp (sole other)
  | consumePkt proxy data => exact sole
  | processError proxy => exact sole

/-- A request that breaks the rule is seen at once: its client has two places
in the very next state. -/
theorem soleRequest_of_everySole {service : RtspService Client} {step : Step Client}
    (sole : (machine.next service step).EverySole) : service.SoleRequest step := by
  cases step with
  | options client uri =>
      intro video phase placed
      have kept : (service.onOptions client uri).service.Placed client video phase :=
        placed_options.mpr (Or.inl placed)
      have joined : (service.onOptions client uri).service.Placed client
          (VideoRequest.parseUrl uri) .beforeDescribe :=
        placed_options.mpr (Or.inr ⟨rfl, rfl, rfl⟩)
      exact sole client video phase _ _ kept joined
  | describe client uri =>
      intro proxy lookup inserts video phase placed
      have target : (service.onDescribe client uri).service.Placed client
          (VideoRequest.parseUrl uri) proxy.describeTarget :=
        placed_describe.mpr (Or.inr ⟨rfl, rfl, proxy, lookup, rfl, inserts⟩)
      by_cases moved : video.cmpStr = keyOf uri ∧ phase = .beforeDescribe
      · exact ⟨moved.1, Or.inl moved.2⟩
      · have kept : (service.onDescribe client uri).service.Placed client video phase :=
          placed_describe.mpr (Or.inl ⟨placed, fun gone => moved gone.2⟩)
        obtain ⟨same, phaseEq⟩ := sole client video phase _ _ kept target
        exact ⟨same, Or.inr phaseEq⟩
  | play client uri npt => trivial
  | close client => trivial
  | processSdp proxy sdp => trivial
  | consumePkt proxy data => trivial
  | processError proxy => trivial

omit [DecidableEq Client] in
theorem everySole_initial : (initial : RtspService Client).EverySole := by
  rintro client first firstPhase second secondPhase ⟨proxy, lookup, _⟩ _
  cases lookup

/-- Cleanup is complete in every state of a run, for every client, exactly when
every request of the run was made by a client without a place elsewhere. -/
theorem close_complete_iff (steps : List (Step Client)) :
    (∀ before, before <+: steps →
        ∀ client, ((after before).close client).service.CleanedUp client) ↔
      machine.Along SoleRequest initial steps := by
  apply LabelledMachine.states_good_iff_along
    (fun service : RtspService Client =>
      ∀ client, (service.close client).service.CleanedUp client) (fun _ => True) EverySole
  · exact fun _ _ _ => trivial
  · exact fun _ _ _ sole guard => everySole_step sole guard
  · exact fun _ _ _ sole => soleRequest_of_everySole sole
  · intro service _
    exact forall_congr' fun client => close_cleanedUp_iff
  · trivial
  · exact everySole_initial

/-- One client, one video: a second OPTIONS while it plays.  `Close` then finds
the client among those that have not described and leaves it in the playing set. -/
theorem close_leaves_playing_client :
    ¬((after [.options 0 "rtsp://host/gb/1", .describe 0 "rtsp://host/gb/1",
        .processSdp 0 "v=0", .play 0 "rtsp://host/gb/1" none,
        .options 0 "rtsp://host/gb/1"] : RtspService Nat).close 0).service.CleanedUp 0 := by
  decide

end Ffvms.Concrete.RtspService
