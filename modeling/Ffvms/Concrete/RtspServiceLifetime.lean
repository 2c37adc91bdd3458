/-
How long a proxy lives.

`Close` erases a proxy as soon as its three later sets are empty.  A client that
has sent OPTIONS and not yet DESCRIBE is in none of them, so the proxy can be
taken from under it by somebody else who leaves.  The main result says in which
runs that never happens.
-/

import Ffvms.Concrete.RtspServiceCleanup

namespace Ffvms.Concrete

variable {Client : Type} [DecidableEq Client]

namespace ProxyInfo

/-- Nobody but the client is past DESCRIBE, and the client is in one set only. -/
def Unattended (proxy : ProxyInfo Client) (client : Client) : Prop :=
  (∀ phase other, phase ≠ .beforeDescribe → other ∈ proxy.clients phase → other = client) ∧
    ∀ first second, client ∈ proxy.clients first → client ∈ proxy.clients second → first = second

theorem needUnregistered_leave_iff {proxy left : ProxyInfo Client} {client : Client}
    (leaves : proxy.leave client = some left) :
    left.needUnregistered ↔ proxy.Unattended client := by
  obtain ⟨former, held, leftEq, first⟩ := leave_eq_some leaves
  rw [needUnregistered_iff, leftEq]
  constructor
  · intro emptied
    have onlyHere (phase : Phase) (member : client ∈ proxy.clients phase) : phase = former := by
      by_contra different
      by_cases early : phase = .beforeDescribe
      · rw [early] at member different
        exact different (first member).symm
      · have empty := emptied phase early
        rw [clients_eraseClient, if_neg different] at empty
        rw [empty] at member
        exact Finset.notMem_empty client member
    refine ⟨?_, ?_⟩
    · intro phase other later member
      have empty := emptied phase later
      rw [clients_eraseClient] at empty
      by_cases here : phase = former
      · rw [if_pos here] at empty
        by_contra different
        have stays := Finset.mem_erase.mpr ⟨different, member⟩
        rw [empty] at stays
        exact Finset.notMem_empty other stays
      · rw [if_neg here] at empty
        rw [empty] at member
        exact absurd member (Finset.notMem_empty other)
    · intro one two inOne inTwo
      exact (onlyHere one inOne).trans (onlyHere two inTwo).symm
  · rintro ⟨alone, sole⟩ phase later
    rw [Finset.eq_empty_iff_forall_notMem]
    intro other member
    rw [clients_eraseClient] at member
    by_cases here : phase = former
    · rw [if_pos here] at member
      obtain ⟨different, inside⟩ := Finset.mem_erase.mp member
      exact different (alone phase other later inside)
    · rw [if_neg here] at member
      have own := alone phase other later member
      rw [own] at member
      exact here (sole phase former member held)

end ProxyInfo

namespace RtspService

/-- Closing this client would erase nobody's proxy but its own: every proxy that
goes has no other client in any of its four sets. -/
def ErasedAlone (service : RtspService Client) (client : Client) : Prop :=
  ∀ video proxy, service.proxies.find? video = some proxy →
    (service.close client).service.proxies.find? video = none →
      ∀ phase, ∀ other ∈ proxy.clients phase, other = client

def Concludes (client : Client) (uri : String) : Step Client → Prop
  | .describe other another => other = client ∧ keyOf another = keyOf uri
  | .close other => other = client
  | _ => False

/-- Between an OPTIONS, which is always answered 200, and the following DESCRIBE
of its client on the same video, the proxy is not lost. -/
def OptionsHonoured (steps : List (Step Client)) : Prop :=
  ∀ before client uri later another,
    before ++ .options client uri :: (later ++ [.describe client another]) <+: steps →
    keyOf another = keyOf uri → (∀ step ∈ later, ¬Concludes client uri step) →
    ((after (before ++ .options client uri :: later)).onDescribe client another).result ≠ .code (-1)

/-- The last client past DESCRIBE leaves a proxy only while nobody else is
between OPTIONS and DESCRIBE on it. -/
def CloseSpares (service : RtspService Client) : Step Client → Prop
  | .close client => ∀ video proxy, service.holder client = some (video, proxy) →
      proxy.Unattended client → ∀ other ∈ proxy.beforeDescribeClients, other = client
  | _ => True

/-! ### One step -/

theorem close_erases_holder {service : RtspService Client} {client : Client}
    {video : VideoRequest} {proxy : ProxyInfo Client}
    (held : service.holder client = some (video, proxy)) (unattended : proxy.Unattended client) :
    (service.close client).service.proxies.find? video = none := by
  have effect := close_effect service client
  generalize (service.close client).service = result at effect
  obtain ⟨located, inside⟩ := holder_eq_some held
  cases effect with
  | absent nowhere =>
      exact absurd (ProxyInfo.without_iff.mpr (fun phase => nowhere video proxy phase located)) inside
  | kept key found left heldHere _located leaves needed =>
      obtain ⟨rfl, rfl⟩ := Prod.mk.inj (Option.some.inj (heldHere.symm.trans held))
      exact absurd ((ProxyInfo.needUnregistered_leave_iff leaves).mpr unattended) needed
  | erased key found left heldHere _located leaves unneeded =>
      obtain ⟨rfl, rfl⟩ := Prod.mk.inj (Option.some.inj (heldHere.symm.trans held))
      exact OrderedMap.find?_erase_self _ _

theorem holder_of_close_erases {service : RtspService Client} {client : Client}
    {video : VideoRequest} {proxy : ProxyInfo Client}
    (located : service.proxies.find? video = some proxy)
    (gone : (service.close client).service.proxies.find? video = none) :
    ∃ key, service.holder client = some (key, proxy) ∧ proxy.Unattended client := by
  have effect := close_effect service client
  generalize (service.close client).service = result at effect gone
  cases effect with
  | absent nowhere =>
      rw [located] at gone
      cases gone
  | kept key found left held foundAt leaves needed =>
      rw [storeProxy_find? service key video found left foundAt] at gone
      split_ifs at gone
      rw [located] at gone
      cases gone
  | erased key found left held foundAt leaves unneeded =>
      rw [OrderedMap.find?_erase] at gone
      split_ifs at gone with same
      · have foundEq : found = proxy := Option.some.inj
          (foundAt.symm.trans ((OrderedMap.find?_congr _ same.symm).trans located))
        rw [foundEq] at held leaves
        exact ⟨key, held, (ProxyInfo.needUnregistered_leave_iff leaves).mp unneeded⟩
      · rw [located] at gone
        cases gone

theorem erasedAlone_iff {service : RtspService Client} {client : Client} :
    service.ErasedAlone client ↔ service.CloseSpares (.close client) := by
  constructor
  · intro alone video proxy held unattended other member
    obtain ⟨located, _inside⟩ := holder_eq_some held
    exact alone video proxy located (close_erases_holder held unattended) .beforeDescribe other
      member
  · intro spares video proxy located gone phase other member
    obtain ⟨key, held, unattended⟩ := holder_of_close_erases located gone
    by_cases early : phase = .beforeDescribe
    · rw [early] at member
      exact spares key proxy held unattended other member
    · exact unattended.1 phase other early member

theorem placed_close_of_spares {service : RtspService Client} {client other : Client}
    {video : VideoRequest} {phase : Phase} (placed : service.Placed client video phase)
    (spares : service.CloseSpares (.close other)) (different : client ≠ other) :
    (service.close other).service.Placed client video phase := by
  obtain ⟨proxy, located, member⟩ := placed
  cases lookup : (service.close other).service.proxies.find? video with
  | none =>
      exact absurd (erasedAlone_iff.mpr spares video proxy located lookup phase client member)
        different
  | some changed =>
      refine ⟨changed, lookup, ?_⟩
      obtain ⟨found, foundAt, same | ⟨leaves, _needed⟩⟩ := close_former lookup
      · rw [same, ← Option.some.inj (located.symm.trans foundAt)]
        exact member
      · obtain ⟨former, _held, leftEq, _first⟩ := ProxyInfo.leave_eq_some leaves
        have foundEq := Option.some.inj (located.symm.trans foundAt)
        rw [leftEq, ← foundEq, ProxyInfo.clients_eraseClient]
        split_ifs
        · exact Finset.mem_erase.mpr ⟨different, member⟩
        · exact member

theorem placed_processSdp_of_beforeDescribe {service : RtspService Client} {identity : Nat}
    {sdp : String} {client : Client} {video : VideoRequest}
    (placed : service.Placed client video .beforeDescribe) :
    (service.processSdpFunction identity sdp).Placed client video .beforeDescribe := by
  obtain ⟨proxy, located, member⟩ := placed
  unfold Placed
  rw [processSdpFunction_find?, located]
  refine ⟨_, rfl, ?_⟩
  dsimp only
  split_ifs
  · exact member
  · exact member

theorem placed_step_of_spares {service : RtspService Client} {client : Client} {uri : String}
    {step : Step Client}
    (placed : service.Placed client (VideoRequest.parseUrl uri) .beforeDescribe)
    (spares : service.CloseSpares step) (waits : ¬Concludes client uri step) :
    (machine.next service step).Placed client (VideoRequest.parseUrl uri) .beforeDescribe := by
  cases step with
  | options other another => exact placed_options.mpr (Or.inl placed)
  | describe other another =>
      apply placed_describe.mpr
      exact Or.inl ⟨placed, fun concluded => waits ⟨concluded.1.symm, concluded.2.1.symm⟩⟩
  | play other another npt =>
      apply placed_play.mpr
      exact Or.inl ⟨placed, fun played => absurd played.2.2 (by decide)⟩
  | close other =>
      have different : client ≠ other := fun same => waits same.symm
      exact placed_close_of_spares placed spares different
  | processSdp identity sdp => exact placed_processSdp_of_beforeDescribe placed
  | consumePkt identity data => exact placed
  | processError identity => exact placed

theorem onDescribe_result_of_placed {service : RtspService Client} {client : Client}
    {uri another : String} (sameKey : keyOf another = keyOf uri)
    (placed : service.Placed client (VideoRequest.parseUrl uri) .beforeDescribe) :
    (service.onDescribe client another).result ≠ .code (-1) := by
  obtain ⟨proxy, located, _member⟩ := placed
  have here : service.proxies.find? (VideoRequest.parseUrl another) = some proxy := by
    rw [OrderedMap.find?_congr service.proxies sameKey]
    exact located
  rw [onDescribe_result client here]
  decide

/-! ### Runs -/

theorem optionsHonoured_of_spares {steps : List (Step Client)}
    (spares : machine.Along CloseSpares initial steps) : OptionsHonoured steps := by
  intro before client uri later another isPrefix sameKey waits
  have here := spares.take_prefix isPrefix
  obtain ⟨_, _, afterOptions⟩ := (LabelledMachine.along_append _ _ before _).mp here
  obtain ⟨sparesLater, _⟩ := (LabelledMachine.along_append _ _ later _).mp afterOptions
  have start : (machine.next (after before) (.options client uri)).Placed client
      (VideoRequest.parseUrl uri) .beforeDescribe :=
    placed_options.mpr (Or.inr ⟨rfl, rfl, rfl⟩)
  have reached : (after (before ++ .options client uri :: later)).Placed client
      (VideoRequest.parseUrl uri) .beforeDescribe := by
    unfold after
    rw [LabelledMachine.run_append]
    refine (sparesLater.and_labels waits).invariant
      (fun service => service.Placed client (VideoRequest.parseUrl uri) .beforeDescribe) ?_ start
    intro service step placed guard
    exact placed_step_of_spares placed guard.1 guard.2
  exact onDescribe_result_of_placed sameKey reached

/-- A proxy outlives its clients, and no OPTIONS is answered in vain, exactly in
the runs in which the last client past DESCRIBE never leaves a proxy while
somebody else has announced itself there. -/
theorem proxy_outlives_clients_iff (steps : List (Step Client)) :
    ((∀ before client, before ++ [.close client] <+: steps → (after before).ErasedAlone client) ∧
        OptionsHonoured steps) ↔
      machine.Along CloseSpares initial steps := by
  constructor
  · rintro ⟨alone, _honoured⟩
    apply LabelledMachine.Along.of_steps
    intro before step rest split
    cases step with
    | close client =>
        apply erasedAlone_iff.mp
        apply alone before client
        exact ⟨rest, by rw [split, List.append_assoc]; rfl⟩
    | options client uri => trivial
    | describe client uri => trivial
    | play client uri npt => trivial
    | processSdp proxy sdp => trivial
    | consumePkt proxy data => trivial
    | processError proxy => trivial
  · intro spares
    refine ⟨?_, optionsHonoured_of_spares spares⟩
    intro before client isPrefix
    exact erasedAlone_iff.mpr (spares.take_prefix isPrefix).at_step

/-- Two clients send OPTIONS for one file and the first leaves: the proxy goes
with it, and the DESCRIBE of the second is refused. -/
theorem options_answered_in_vain :
    let opened : RtspService Nat :=
      after [.options 0 "rtsp://host/file/a", .options 1 "rtsp://host/file/a"]
    let closed := (opened.close 0).service
    opened.sent 1 = [.options 200] ∧
      (opened.proxies.find? (VideoRequest.parseUrl "rtsp://host/file/a")).isSome = true ∧
      opened.boundTo 0 .beforeDescribe 1 = true ∧
      closed.proxies.find? (VideoRequest.parseUrl "rtsp://host/file/a") = none ∧
      (closed.onDescribe 1 "rtsp://host/file/a").result = .code (-1) := by
  decide

end RtspService

end Ffvms.Concrete
