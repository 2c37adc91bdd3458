/-
The end of a connection, seen by the callbacks of the producer.

`errorcb` destroys the `EventRtspServer` of a client: `bufferevent_free` first,
then `rtsp_server_destroy`, which calls `Close`.  It holds `mRtspServerMutex`
exclusively meanwhile, so no request is handled between the two, but a callback
takes only the client lock of its proxy and may run there.  A callback may also
meet a client that `Close` left behind.  The main result says when no callback
uses a freed connection.
-/

import Mathlib.Data.Fintype.Basic
import Ffvms.Concrete.RtspServiceCleanup

namespace Ffvms.Concrete

variable {Client : Type} [DecidableEq Client]

inductive RequestKind where
  | options
  | describe
  | play
  deriving DecidableEq, Repr

structure Request (Client : Type) where
  client : Client
  kind : RequestKind
  uri : String
  npt : Option Int

def Request.step (request : Request Client) : RtspService.Step Client :=
  match request.kind with
  | .options => .options request.client request.uri
  | .describe => .describe request.client request.uri
  | .play => .play request.client request.uri request.npt

inductive ProxyCall where
  | processSdp (proxy : Nat) (sdp : String)
  | consumePkt (proxy : Nat) (data : List UInt8)
  | processError (proxy : Nat)
  deriving DecidableEq, Repr

def ProxyCall.step : ProxyCall → RtspService.Step Client
  | .processSdp proxy sdp => .processSdp proxy sdp
  | .consumePkt proxy data => .consumePkt proxy data
  | .processError proxy => .processError proxy

/-- `closing` is the client that `errorcb` has freed and not yet closed.
`requests` are those handled so far, the last one first. -/
structure Connections (Client : Type) where
  service : RtspService Client
  requests : List (Request Client)
  freed : Finset Client
  closing : Option Client

namespace Connections

def initial : Connections Client :=
  { service := RtspService.initial
    requests := []
    freed := ∅
    closing := none }

inductive Step (Client : Type) where
  | request (request : Request Client)
  | free (client : Client)
  | destroy
  | callback (call : ProxyCall)

/-- A request waits while `errorcb` runs, and a freed connection sends none.  The
callbacks do not wait. -/
def perform (connections : Connections Client) : Step Client → Connections Client
  | .request request =>
      if connections.closing = none ∧ request.client ∉ connections.freed then
        { connections with
          service := RtspService.machine.next connections.service request.step
          requests := request :: connections.requests }
      else connections
  | .free client =>
      if connections.closing = none ∧ client ∉ connections.freed then
        { connections with
          freed := insert client connections.freed
          closing := some client }
      else connections
  | .destroy =>
      match connections.closing with
      | none => connections
      | some client =>
          { connections with
            service := (connections.service.close client).service
            closing := none }
  | .callback call =>
      { connections with service := RtspService.machine.next connections.service call.step }

def machine : LabelledMachine (Connections Client) (Step Client) Unit :=
  { next := perform
    emit := fun _ _ => [] }

def after (steps : List (Step Client)) : Connections Client := machine.run initial steps

def Uses (service : RtspService Client) : ProxyCall → Client → Prop
  | .processSdp proxy _, client => service.boundTo proxy .waitingSdp client = true
  | .consumePkt proxy _, client => service.boundTo proxy .playing client = true
  | .processError proxy, client => ∃ phase, service.boundTo proxy phase client = true

def SparesFreed (connections : Connections Client) : Step Client → Prop
  | .callback call => ∀ client, Uses connections.service call client → client ∉ connections.freed
  | _ => True

/-- A client sends each kind of request at most once, all for one video. -/
def OnceEach (connections : Connections Client) : Step Client → Prop
  | .request request => ∀ earlier ∈ connections.requests, earlier.client = request.client →
      earlier.kind ≠ request.kind ∧ RtspService.keyOf earlier.uri = RtspService.keyOf request.uri
  | _ => True

def OptionsLate : List (Request Client) → Client → Prop
  | [], _ => False
  | request :: earlier, client =>
      (request.client = client ∧ request.kind = .options ∧
        ∃ other ∈ earlier, other.client = client ∧ other.kind = .describe) ∨
      OptionsLate earlier client

/-- No callback runs between the two halves of the destruction of a client that it
uses, and none uses a destroyed client whose OPTIONS came after its DESCRIBE. -/
def Undisturbed (connections : Connections Client) : Step Client → Prop
  | .callback call => ∀ client, Uses connections.service call client →
      connections.closing ≠ some client ∧
        (client ∈ connections.freed → ¬OptionsLate connections.requests client)
  | _ => True

/-! ### Evaluation -/

instance (connections : Connections Client) :
    (step : Step Client) → Decidable (connections.OnceEach step)
  | .request request =>
      inferInstanceAs (Decidable (∀ earlier ∈ connections.requests, earlier.client = request.client →
        earlier.kind ≠ request.kind ∧ RtspService.keyOf earlier.uri = RtspService.keyOf request.uri))
  | .free _ | .destroy | .callback _ => isTrue trivial

instance (client : Client) :
    (requests : List (Request Client)) → Decidable (OptionsLate requests client)
  | [] => isFalse id
  | request :: earlier =>
      have := instDecidableOptionsLate client earlier
      inferInstanceAs (Decidable ((request.client = client ∧ request.kind = .options ∧
        ∃ other ∈ earlier, other.client = client ∧ other.kind = .describe) ∨
          OptionsLate earlier client))

instance (service : RtspService Client) (client : Client) :
    (call : ProxyCall) → Decidable (Uses service call client)
  | .processSdp proxy _ =>
      inferInstanceAs (Decidable (service.boundTo proxy .waitingSdp client = true))
  | .consumePkt proxy _ =>
      inferInstanceAs (Decidable (service.boundTo proxy .playing client = true))
  | .processError proxy =>
      decidable_of_iff
        (∃ phase ∈ [Phase.beforeDescribe, .waitingSdp, .beforePlay, .playing],
          service.boundTo proxy phase client = true)
        ⟨fun ⟨phase, _, bound⟩ => ⟨phase, bound⟩,
          fun ⟨phase, bound⟩ => ⟨phase, by cases phase <;> decide, bound⟩⟩

instance [Fintype Client] (connections : Connections Client) :
    (step : Step Client) → Decidable (connections.SparesFreed step)
  | .callback call =>
      inferInstanceAs (Decidable (∀ client, Uses connections.service call client →
        client ∉ connections.freed))
  | .request _ | .free _ | .destroy => isTrue trivial

instance [Fintype Client] (connections : Connections Client) :
    (step : Step Client) → Decidable (connections.Undisturbed step)
  | .callback call =>
      inferInstanceAs (Decidable (∀ client, Uses connections.service call client →
        connections.closing ≠ some client ∧
          (client ∈ connections.freed → ¬OptionsLate connections.requests client)))
  | .request _ | .free _ | .destroy => isTrue trivial

/-! ### Places and requests -/

omit [DecidableEq Client] in
theorem OptionsLate.cons {requests : List (Request Client)} {client : Client}
    (late : OptionsLate requests client) (request : Request Client) :
    OptionsLate (request :: requests) client := Or.inr late

omit [DecidableEq Client] in
theorem OptionsLate.of_options {requests : List (Request Client)} {request earlier : Request Client}
    (kind : request.kind = .options) (member : earlier ∈ requests)
    (own : earlier.client = request.client) (described : earlier.kind = .describe) :
    OptionsLate (request :: requests) request.client :=
  Or.inl ⟨rfl, kind, earlier, member, own, described⟩

def introducing : Phase → RequestKind
  | .beforeDescribe => .options
  | .waitingSdp | .beforePlay | .playing => .describe

/-- A place of a client goes back to a request of its own for that video, and a
client whose OPTIONS was not late has one place at most. -/
structure Tracked (connections : Connections Client) : Prop where
  asked : ∀ client video phase, connections.service.Placed client video phase →
    ∃ request ∈ connections.requests, request.client = client ∧
      request.kind = introducing phase ∧ RtspService.keyOf request.uri = video.cmpStr
  sole : ∀ client, ¬OptionsLate connections.requests client → connections.service.Sole client
  closingFreed : ∀ client, connections.closing = some client → client ∈ connections.freed
  gone : ∀ client ∈ connections.freed, connections.closing ≠ some client →
    ∀ video phase, connections.service.Placed client video phase →
      OptionsLate connections.requests client

omit [DecidableEq Client] in
theorem tracked_initial : (initial : Connections Client).Tracked := by
  refine
    { asked := ?_
      sole := fun client _ => RtspService.everySole_initial client
      closingFreed := fun _ closing => nomatch closing
      gone := fun _ member => absurd member (Finset.notMem_empty _) }
  intro client video phase placed
  obtain ⟨proxy, located, _member⟩ := placed
  cases located

theorem placed_of_uses {service : RtspService Client} {call : ProxyCall} {client : Client}
    (uses : Uses service call client) : ∃ video phase, service.Placed client video phase := by
  have held {proxy : Nat} {phase : Phase} (bound : service.boundTo proxy phase client = true) :
      ∃ video phase, service.Placed client video phase := by
    obtain ⟨video, info, located, _same, member⟩ := RtspService.boundTo_iff.mp bound
    exact ⟨video, phase, info, located, member⟩
  cases call with
  | processSdp proxy sdp => exact held uses
  | consumePkt proxy data => exact held uses
  | processError proxy =>
      obtain ⟨phase, bound⟩ := uses
      exact held bound

/-! ### One request -/

section Request

variable {connections : Connections Client} {request : Request Client}

/-- What the handler of the request has to keep; the rest of the invariant speaks
of clients that send nothing any more. -/
theorem tracked_request (tracked : connections.Tracked)
    (alive : request.client ∉ connections.freed)
    (asked : ∀ client video phase,
      (RtspService.machine.next connections.service request.step).Placed client video phase →
        connections.service.Placed client video phase ∨
          (client = request.client ∧ request.kind = introducing phase ∧
            RtspService.keyOf request.uri = video.cmpStr) ∨
          ∃ former, connections.service.Placed client video former ∧
            introducing former = introducing phase)
    (others : ∀ client video phase, client ≠ request.client →
      (RtspService.machine.next connections.service request.step).Placed client video phase →
        connections.service.Placed client video phase)
    (sole : ∀ client, ¬OptionsLate (request :: connections.requests) client →
      (RtspService.machine.next connections.service request.step).Sole client) :
    Tracked
      { connections with
        service := RtspService.machine.next connections.service request.step
        requests := request :: connections.requests } := by
  refine
    { asked := ?_
      sole := sole
      closingFreed := tracked.closingFreed
      gone := ?_ }
  · intro client video phase placed
    rcases asked client video phase placed with older | ⟨rfl, kind, key⟩ | ⟨former, older, same⟩
    · obtain ⟨earlier, member, facts⟩ := tracked.asked client video phase older
      exact ⟨earlier, List.mem_cons_of_mem request member, facts⟩
    · exact ⟨request, List.mem_cons_self, rfl, kind, key⟩
    · obtain ⟨earlier, member, own, kind, key⟩ := tracked.asked client video former older
      exact ⟨earlier, List.mem_cons_of_mem request member, own, kind.trans same, key⟩
  · intro client member notClosing video phase placed
    have different : client ≠ request.client := fun same => alive (same ▸ member)
    exact (tracked.gone client member notClosing video phase
      (others client video phase different placed)).cons request

theorem tracked_options (tracked : connections.Tracked)
    (alive : request.client ∉ connections.freed) (kind : request.kind = .options)
    (once : connections.OnceEach (.request request)) :
    Tracked
      { connections with
        service := RtspService.machine.next connections.service request.step
        requests := request :: connections.requests } := by
  have handled : RtspService.machine.next connections.service request.step =
      (connections.service.onOptions request.client request.uri).service := by
    unfold Request.step
    rw [kind]
    rfl
  refine tracked_request tracked alive ?_ ?_ ?_
  · intro client video phase placed
    rw [handled, RtspService.placed_options] at placed
    rcases placed with older | ⟨own, key, rfl⟩
    · exact Or.inl older
    · exact Or.inr (Or.inl ⟨own, kind, key.symm⟩)
  · intro client video phase different placed
    rw [handled, RtspService.placed_options] at placed
    exact placed.resolve_right (fun new => different new.1)
  · intro client notLate
    rw [handled]
    by_cases own : client = request.client
    · subst client
      -- Neither an OPTIONS nor a DESCRIBE came before, so the client is nowhere.
      have nowhere (video : VideoRequest) (phase : Phase) :
          ¬connections.service.Placed request.client video phase := by
        intro placed
        obtain ⟨earlier, member, same, earlierKind, _key⟩ :=
          tracked.asked request.client video phase placed
        cases phase with
        | beforeDescribe => exact (once earlier member same).1 (earlierKind.trans kind.symm)
        | waitingSdp | beforePlay | playing =>
            exact notLate (OptionsLate.of_options kind member same earlierKind)
      intro first firstPhase second secondPhase inFirst inSecond
      rw [RtspService.placed_options] at inFirst inSecond
      obtain ⟨_, firstKey, firstEq⟩ := inFirst.resolve_left (nowhere first firstPhase)
      obtain ⟨_, secondKey, secondEq⟩ := inSecond.resolve_left (nowhere second secondPhase)
      exact ⟨firstKey.trans secondKey.symm, firstEq.trans secondEq.symm⟩
    · have before := tracked.sole client (fun late => notLate (late.cons request))
      intro first firstPhase second secondPhase inFirst inSecond
      rw [RtspService.placed_options] at inFirst inSecond
      exact before first firstPhase second secondPhase
        (inFirst.resolve_right (fun new => own new.1))
        (inSecond.resolve_right (fun new => own new.1))

theorem tracked_describe (tracked : connections.Tracked)
    (alive : request.client ∉ connections.freed) (kind : request.kind = .describe)
    (once : connections.OnceEach (.request request)) :
    Tracked
      { connections with
        service := RtspService.machine.next connections.service request.step
        requests := request :: connections.requests } := by
  have handled : RtspService.machine.next connections.service request.step =
      (connections.service.onDescribe request.client request.uri).service := by
    unfold Request.step
    rw [kind]
    rfl
  have later (proxy : ProxyInfo Client) : introducing proxy.describeTarget = .describe := by
    unfold ProxyInfo.describeTarget
    split_ifs <;> rfl
  refine tracked_request tracked alive ?_ ?_ ?_
  · intro client video phase placed
    rw [handled, RtspService.placed_describe] at placed
    rcases placed with ⟨older, _⟩ | ⟨own, key, proxy, _, rfl, _⟩
    · exact Or.inl older
    · exact Or.inr (Or.inl ⟨own, kind.trans (later proxy).symm, key.symm⟩)
  · intro client video phase different placed
    rw [handled, RtspService.placed_describe] at placed
    exact (placed.resolve_right (fun new => different new.1)).1
  · intro client notLate
    rw [handled]
    have before := tracked.sole client (fun late => notLate (late.cons request))
    by_cases own : client = request.client
    · subst client
      -- No DESCRIBE came before: the only place the client can have is the one it leaves.
      have leaves (video : VideoRequest) (phase : Phase)
          (placed : connections.service.Placed request.client video phase) :
          video.cmpStr = RtspService.keyOf request.uri ∧ phase = .beforeDescribe := by
        obtain ⟨earlier, member, same, earlierKind, key⟩ :=
          tracked.asked request.client video phase placed
        obtain ⟨fresh, oneVideo⟩ := once earlier member same
        cases phase with
        | beforeDescribe => exact ⟨key.symm.trans oneVideo, rfl⟩
        | waitingSdp | beforePlay | playing => exact absurd (earlierKind.trans kind.symm) fresh
      have entered (video : VideoRequest) (phase : Phase)
          (placed : (connections.service.onDescribe request.client request.uri).service.Placed
            request.client video phase) :
          video.cmpStr = RtspService.keyOf request.uri ∧
            ∃ proxy, connections.service.proxies.find? video = some proxy ∧
              phase = proxy.describeTarget := by
        rw [RtspService.placed_describe] at placed
        rcases placed with ⟨older, stayed⟩ | ⟨_, key, proxy, located, target, _⟩
        · exact absurd ⟨rfl, leaves video phase older⟩ stayed
        · exact ⟨key, proxy, located, target⟩
      intro first firstPhase second secondPhase inFirst inSecond
      obtain ⟨firstKey, proxy, located, firstEq⟩ := entered first firstPhase inFirst
      obtain ⟨secondKey, other, found, secondEq⟩ := entered second secondPhase inSecond
      have same := firstKey.trans secondKey.symm
      rw [OrderedMap.find?_congr _ same, found] at located
      cases located
      exact ⟨same, firstEq.trans secondEq.symm⟩
    · intro first firstPhase second secondPhase inFirst inSecond
      rw [RtspService.placed_describe] at inFirst inSecond
      exact before first firstPhase second secondPhase
        (inFirst.resolve_right (fun new => own new.1)).1
        (inSecond.resolve_right (fun new => own new.1)).1

theorem tracked_play (tracked : connections.Tracked)
    (alive : request.client ∉ connections.freed) (kind : request.kind = .play) :
    Tracked
      { connections with
        service := RtspService.machine.next connections.service request.step
        requests := request :: connections.requests } := by
  have handled : RtspService.machine.next connections.service request.step =
      (connections.service.onPlay request.client request.uri request.npt).service := by
    unfold Request.step
    rw [kind]
    rfl
  refine tracked_request tracked alive ?_ ?_ ?_
  · intro client video phase placed
    rw [handled, RtspService.placed_play] at placed
    rcases placed with ⟨older, _⟩ | ⟨own, _, rfl, ready⟩
    · exact Or.inl older
    · subst own
      exact Or.inr (Or.inr ⟨.beforePlay, ready, rfl⟩)
  · intro client video phase different placed
    rw [handled, RtspService.placed_play] at placed
    exact (placed.resolve_right (fun new => different new.1)).1
  · intro client notLate
    rw [handled]
    exact RtspService.sole_play (tracked.sole client (fun late => notLate (late.cons request)))

end Request

/-! ### The other steps -/

theorem tracked_destroy {connections : Connections Client} {client : Client}
    (tracked : connections.Tracked) (closing : connections.closing = some client) :
    Tracked
      { connections with
        service := (connections.service.close client).service
        closing := none } := by
  refine
    { asked := ?_
      sole := fun other notLate => RtspService.sole_close (tracked.sole other notLate)
      closingFreed := fun _ other => nomatch other
      gone := ?_ }
  · intro other video phase placed
    exact tracked.asked other video phase (RtspService.placed_of_close placed)
  · intro other member _ video phase placed
    by_cases same : other = client
    · -- `Close` clears a client with one place, so this one had two.
      subst other
      by_contra notLate
      exact RtspService.close_clears_sole (tracked.sole client notLate) video phase placed
    · have notClosing : connections.closing ≠ some other := by
        rw [closing]
        exact fun equal => same (Option.some.inj equal).symm
      exact tracked.gone other member notClosing video phase (RtspService.placed_of_close placed)

theorem tracked_callback {connections : Connections Client} (call : ProxyCall)
    (tracked : connections.Tracked) :
    Tracked
      { connections with
        service := RtspService.machine.next connections.service call.step } := by
  cases call with
  | consumePkt proxy data =>
      exact ⟨tracked.asked, tracked.sole, tracked.closingFreed, tracked.gone⟩
  | processError proxy =>
      exact ⟨tracked.asked, tracked.sole, tracked.closingFreed, tracked.gone⟩
  | processSdp proxy sdp =>
      have former {client : Client} {video : VideoRequest} {phase : Phase}
          (placed : (connections.service.processSdpFunction proxy sdp).Placed client video phase) :
          ∃ before, connections.service.Placed client video before ∧
            introducing before = introducing phase := by
        obtain ⟨info, before, located, member, moved⟩ := RtspService.placed_processSdp placed
        refine ⟨before, ⟨info, located, member⟩, ?_⟩
        rw [moved]
        split_ifs with waited
        · rw [waited.2]
          rfl
        · rfl
      refine
        { asked := ?_
          sole := fun client notLate => RtspService.sole_processSdp (tracked.sole client notLate)
          closingFreed := tracked.closingFreed
          gone := ?_ }
      · intro client video phase placed
        obtain ⟨before, older, same⟩ := former placed
        obtain ⟨earlier, member, own, kind, key⟩ := tracked.asked client video before older
        exact ⟨earlier, member, own, kind.trans same, key⟩
      · intro client member notClosing video phase placed
        obtain ⟨before, older, _same⟩ := former placed
        exact tracked.gone client member notClosing video before older

theorem tracked_step {connections : Connections Client} {step : Step Client}
    (tracked : connections.Tracked) (once : connections.OnceEach step) :
    (machine.next connections step).Tracked := by
  cases step with
  | request request =>
      change (connections.perform (.request request)).Tracked
      simp only [perform]
      split_ifs with ready
      · cases kind : request.kind with
        | options => exact tracked_options tracked ready.2 kind once
        | describe => exact tracked_describe tracked ready.2 kind once
        | play => exact tracked_play tracked ready.2 kind
      · exact tracked
  | free client =>
      change (connections.perform (.free client)).Tracked
      simp only [perform]
      split_ifs with ready
      · refine
          { asked := tracked.asked
            sole := tracked.sole
            closingFreed := ?_
            gone := ?_ }
        · intro other closing
          cases closing
          exact Finset.mem_insert_self client _
        · intro other member notClosing video phase placed
          have different : other ≠ client := fun same => notClosing (congrArg some same.symm)
          have older := Finset.mem_of_mem_insert_of_ne member different
          have notBefore : connections.closing ≠ some other := by
            rw [ready.1]
            exact fun impossible => nomatch impossible
          exact tracked.gone other older notBefore video phase placed
      · exact tracked
  | destroy =>
      change (connections.perform .destroy).Tracked
      unfold perform
      cases closing : connections.closing with
      | none => exact tracked
      | some client => exact tracked_destroy tracked closing
  | callback call => exact tracked_callback call tracked

theorem sparesFreed_iff {connections : Connections Client} {step : Step Client}
    (tracked : connections.Tracked) :
    connections.SparesFreed step ↔ connections.Undisturbed step := by
  cases step with
  | request | free | destroy => exact Iff.rfl
  | callback call =>
      constructor
      · intro spares client uses
        have alive := spares client uses
        exact ⟨fun closing => alive (tracked.closingFreed client closing),
          fun member => absurd member alive⟩
      · intro undisturbed client uses member
        obtain ⟨notClosing, notLate⟩ := undisturbed client uses
        obtain ⟨video, phase, placed⟩ := placed_of_uses uses
        exact notLate member (tracked.gone client member notClosing video phase placed)

end Connections

end Ffvms.Concrete
