/-
Races of the service threads.

The handlers work on a proxy under its client lock, but `Close` works on it under the lock
of the map, `processErrorFunc` reads its sets under no lock of the service at all, and the
search of `OnPlay` is made without the lock of the map.  All packets of a proxy are framed
in one buffer, under a lock that is taken shared.  `errorcb` frees the connection of a
client before `Close` takes the client out of its set, and under no lock that the callbacks
take.  So some sections overlap that should not.  Which ones these are is said here; the
locks keep all others apart.
-/

import Ffvms.LockRaces
import Ffvms.Concrete.ServiceThreadsInvariant

namespace Ffvms.Concrete

open LockProgram

variable {Client Thread : Type} [DecidableEq Client]

/-- `mBev2RtspServer`, the map of the proxies, the members of a proxy, its send buffer, the
connections of the clients in one of its sets, `mRtpVideoContextMap`, the members of a context
and the peers of the network server. -/
inductive ServiceRegion where
  | servers
  | proxyMap
  | clients (proxy : Nat)
  | sendBuffer (proxy : Nat)
  | connections (proxy : Nat) (phase : Phase)
  | contextMap
  | context (address : Nat)
  | peers
  deriving DecidableEq, Repr

/-- The four sets of a proxy. -/
def clientSets (proxy : Nat) : List (Nat × Phase) :=
  [(proxy, .beforeDescribe), (proxy, .waitingSdp), (proxy, .beforePlay), (proxy, .playing)]

namespace SharedData

def errorTarget? (data : SharedData Client) (invite : Invite) (completion : Completion) :
    Option Nat :=
  (data.producer.heap.get? invite.context).bind (fun context =>
    match (context.accept data.producer.config completion).2 with
    | none => context.registration.target
    | some _ => none)

/-- `RegisterVideo` calls `processErrorFunc` before it returns. -/
def refuses (data : SharedData Client) (video : VideoRequest) (target : Option Nat) : Bool :=
  (data.producer.registerVideo video target).effects.any (fun effect =>
    match effect with
    | .callback _ (.processError _) => true
    | _ => false)

/-- `OnDescribe` registers a video for which the producer does not take the lock of the
contexts, and is refused. -/
def refusesDescribe (data : SharedData Client) (video : VideoRequest) (proxy : Nat) : Bool :=
  (data.service.proxyAt? proxy).any (fun found =>
    found.sourceSdp = "" ∧ found.waitingSdpClients = ∅ ∧ ¬video.TakesContextLock) &&
    data.refuses video (some proxy)

/-- The sets of the proxies that the client is in. -/
def places (data : SharedData Client) (client : Client) : List (Nat × Phase) :=
  data.service.proxies.entries.flatMap (fun entry =>
    (clientSets entry.2.identity).filter (fun place => client ∈ entry.2.clients place.2))

/-- The connection of a client in this set has been freed. -/
def freed (data : SharedData Client) (place : Nat × Phase) : Bool :=
  data.service.proxies.entries.any (fun entry =>
    entry.2.identity = place.1 ∧ ¬entry.2.clients place.2 ⊆ data.connected)

end SharedData

namespace ServiceStage

/-- The proxy that the section calls back into, with no lock of the servers or of the map. -/
def callsBack? (data : SharedData Client) : ServiceStage Client → Option Nat
  | .processSdp proxy _ _ _ | .consumePkt proxy _ _ => some proxy
  | .inviteCallback invite completion => data.errorTarget? invite completion
  | _ => none

/-- The sets whose clients are answered in the section by a callback, or have their sockets
closed. -/
def uses (data : SharedData Client) : ServiceStage Client → List (Nat × Phase)
  | .processSdp proxy _ _ _ => [(proxy, .waitingSdp)]
  | .consumePkt proxy _ _ => [(proxy, .playing)]
  | .inviteCallback invite completion =>
      (data.errorTarget? invite completion).toList.flatMap clientSets
  | .registerVideo video target =>
      if data.refuses video target then target.toList.flatMap clientSets else []
  | .onDescribeClients _ video proxy =>
      if data.refusesDescribe video proxy then clientSets proxy else []
  | _ => []

def members (data : SharedData Client) :
    ServiceStage Client → List (ServiceRegion × LockMode)
  | .accept _ | .errorcb _ => [(.servers, .exclusive)]
  | .readcb _ _ => [(.servers, .shared)]
  | .onOptions _ uri =>
      match data.service.proxies.find? (VideoRequest.parseUrl uri) with
      | none => [(.proxyMap, .exclusive)]
      | some _ => [(.proxyMap, .shared)]
  | .onDescribe _ _ | .onPlay _ _ _ => [(.proxyMap, .shared)]
  | .onOptionsClients _ proxy | .onDescribeClients _ _ proxy | .onPlayClients _ proxy _
  | .processSdp proxy _ _ _ => [(.clients proxy, .exclusive)]
  | .consumePkt proxy _ _ => [(.clients proxy, .shared), (.sendBuffer proxy, .exclusive)]
  | .close client =>
      -- The scan looks into every proxy and removes the client from the one it is found in.
      (.proxyMap, .shared) ::
        data.service.proxies.entries.map (fun entry => (.clients entry.2.identity, .shared)) ++
        (data.service.closeScan client).toList.map
          (fun found => (.clients found.2.identity, .exclusive))
  | .eraseProxy video =>
      (.proxyMap, .exclusive) ::
        (data.service.proxies.find? video).toList.flatMap (fun proxy =>
          [(.clients proxy.identity, .exclusive), (.sendBuffer proxy.identity, .exclusive)])
  | .registerVideo _ target =>
      (.contextMap, .exclusive) :: target.toList.map (fun proxy => (.clients proxy, .shared))
  | .unregisterVideo video _ =>
      (.contextMap, .exclusive) ::
        (data.producer.rtpVideoContextMap.find? video).toList.map
          (fun address => (.context address, .exclusive))
  | .inviteCallback invite completion =>
      (.context invite.context, .exclusive) ::
        (data.errorTarget? invite completion).toList.map (fun proxy => (.clients proxy, .shared))
  | .handlePacket context _ => [(.context context, .exclusive)]
  | .registerPeer _ _ => [(.peers, .exclusive)]
  | .datagram _ _ => [(.peers, .shared)]

/-- The server of a client is destroyed in `errorcb`, and its connection with it. -/
def destroys (data : SharedData Client) : ServiceStage Client → List (Nat × Phase)
  | .errorcb client => data.places client
  | _ => []

def touches (data : SharedData Client) (stage : ServiceStage Client) :
    List (ServiceRegion × LockMode) :=
  stage.members data ++
    (stage.uses data).map (fun place => (.connections place.1 place.2, .shared)) ++
    (stage.destroys data).map (fun place => (.connections place.1 place.2, .exclusive))

/-- The two sections work on the same data, and no lock keeps them apart: `OnPlay` searches
the map while `OnOptions` inserts into it; `Close` takes a client or a proxy away while a
callback is under way; `errorcb` frees a connection while a callback uses it; a failed invite
reads the sets of a proxy while they change; two packets of a proxy are framed, or two callbacks
work on a context, at the same time. -/
def unguarded (data : SharedData Client) : ServiceStage Client → ServiceStage Client → Bool
  | .onPlay _ _ _, .onOptions _ _ => true
  | .close _, begun | .eraseProxy _, begun => (begun.callsBack? data).isSome
  | .errorcb client, begun => (begun.uses data).any (· ∈ data.places client)
  | .inviteCallback invite completion, .onOptionsClients _ proxy
  | .inviteCallback invite completion, .onDescribeClients _ _ proxy
  | .inviteCallback invite completion, .onPlayClients _ proxy _
  | .inviteCallback invite completion, .processSdp proxy _ _ _ =>
      data.errorTarget? invite completion = some proxy
  | .consumePkt proxy _ _, .consumePkt other _ _ => proxy = other
  | .inviteCallback invite _, .inviteCallback other _ => invite.context = other.context
  | .inviteCallback invite _, .handlePacket context _ => invite.context = context
  | .handlePacket context _, .handlePacket other _ => context = other
  | _, _ => false

end ServiceStage

/-- A callback dangles if its proxy is not in the map any more, or if it uses the connection of
a client that has left.  A client that is in two sets stays in one of them after `Close`. -/
def serviceHazards : Hazards (SharedData Client) (ServiceStage Client) ServiceRegion :=
  { touches := ServiceStage.touches
    dangles := fun data stage =>
      (stage.callsBack? data).any (fun proxy => (data.service.proxyAt? proxy).isNone) ||
        (stage.uses data).any data.freed }

namespace ServiceThreads

def Meets (state : ServiceThreads Thread Client) (thread other : Thread) : Prop :=
  thread ≠ other ∧ (state.points thread).inside?.any (fun stage =>
    (state.points other).inside?.any (stage.unguarded state.data)) = true

instance [DecidableEq Thread] (state : ServiceThreads Thread Client) (thread other : Thread) :
    Decidable (state.Meets thread other) :=
  inferInstanceAs (Decidable (_ ∧ _))

/-! ### What the locks keep apart -/

section Locks

def Excluded (stage begun : ServiceStage Client) : Prop :=
  ∃ lock mode taken, (lock, mode) ∈ serviceScopes.inner stage ∧
    (lock, taken) ∈ serviceScopes.inner begun ∧ mode.Conflicts taken

variable {data : SharedData Client} {stage begun : ServiceStage Client} {mode taken : LockMode}
  {proxy : Nat}

/-- The locks keep the sections apart, or they are among those that nothing keeps apart. -/
def Known (data : SharedData Client) (stage begun : ServiceStage Client) : Prop :=
  Excluded stage begun ∨ stage.unguarded data begun = true ∨ begun.unguarded data stage = true

theorem Known.symm (known : Known data stage begun) : Known data begun stage := by
  rcases known with ⟨lock, mode, taken, mine, theirs, conflict⟩ | either
  · exact Or.inl ⟨lock, taken, mode, theirs, mine, conflict.symm⟩
  · exact Or.inr either.symm

theorem known_of_exclusive {lock : ServiceLock} (mine : (lock, mode) ∈ serviceScopes.inner stage)
    (theirs : (lock, .exclusive) ∈ serviceScopes.inner begun) : Known data stage begun :=
  Or.inl ⟨lock, mode, .exclusive, mine, theirs, LockMode.conflicts_exclusive _⟩

theorem inner_of_servers (touches : (.servers, mode) ∈ stage.members data) :
    (.rtspServer, mode) ∈ serviceScopes.inner stage := by
  cases stage with
  | accept | errorcb | readcb =>
      cases List.mem_singleton.mp touches
      exact List.mem_cons_self
  | onOptions =>
      simp only [ServiceStage.members] at touches
      split at touches <;> simp at touches
  | _ => simp [ServiceStage.members] at touches

theorem inner_of_proxyMap (touches : (.proxyMap, mode) ∈ stage.members data) :
    (.proxyInfo, .exclusive) ∈ serviceScopes.inner stage ∨
      mode = .shared ∧ ∃ client uri npt, stage = .onPlay client uri npt := by
  cases stage with
  | onPlay client uri npt =>
      cases List.mem_singleton.mp touches
      exact Or.inr ⟨rfl, client, uri, npt, rfl⟩
  | onOptions | onDescribe | close => exact Or.inl List.mem_cons_self
  | eraseProxy => exact Or.inl List.mem_cons_self
  | _ => simp [ServiceStage.members] at touches

theorem known_of_search {client : Client} {uri : String} {npt : Option Int}
    (touches : (.proxyMap, .exclusive) ∈ begun.members data) :
    Known data (.onPlay client uri npt) begun := by
  cases begun with
  | onOptions => exact Or.inr (Or.inl rfl)
  | eraseProxy video =>
      have searching : (.rtspServer, .shared) ∈
          serviceScopes.inner (.onPlay client uri npt : ServiceStage Client) := List.mem_cons_self
      exact known_of_exclusive searching (List.mem_cons_of_mem _ List.mem_cons_self)
  | close client => simp [ServiceStage.members] at touches
  | _ => simp [ServiceStage.members] at touches

theorem known_of_proxyMap (mine : (.proxyMap, mode) ∈ stage.members data)
    (theirs : (.proxyMap, taken) ∈ begun.members data) (conflict : mode.Conflicts taken) :
    Known data stage begun := by
  rcases inner_of_proxyMap mine with locked | ⟨rfl, client, uri, npt, rfl⟩
  · rcases inner_of_proxyMap theirs with others | ⟨rfl, client, uri, npt, rfl⟩
    · exact known_of_exclusive locked others
    · cases LockMode.eq_exclusive_of_conflicts conflict
      exact (known_of_search mine).symm
  · cases LockMode.eq_exclusive_of_conflicts conflict.symm
    exact known_of_search theirs

/-- How a section comes to the members of a proxy: under the client lock, in `Close`, or in the
`processErrorFunc` of a failed invite. -/
inductive ClientsAccess (data : SharedData Client) (proxy : Nat) (stage : ServiceStage Client)
    (mode : LockMode) : Prop
  | locked (taken : LockMode) (holds : (.client proxy, taken) ∈ serviceScopes.inner stage)
      (enough : mode = .exclusive → taken = .exclusive)
      (server : (.rtspServer, .shared) ∈ serviceScopes.inner stage ∨
        stage.callsBack? data = some proxy)
      (meets : mode = .exclusive → ∀ invite completion,
        data.errorTarget? invite completion = some proxy →
          (ServiceStage.inviteCallback invite completion).unguarded data stage = true)
  | closing (holds : (.rtspServer, .exclusive) ∈ serviceScopes.inner stage)
      (meets : ∀ begun, (begun.callsBack? data).isSome = true → stage.unguarded data begun = true)
  | error (invite : Invite) (completion : Completion)
      (same : stage = .inviteCallback invite completion)
      (target : data.errorTarget? invite completion = some proxy) (reads : mode = .shared)

theorem clients_access (touches : (.clients proxy, mode) ∈ stage.members data) :
    ClientsAccess data proxy stage mode := by
  cases stage with
  | onOptionsClients client own =>
      cases List.mem_singleton.mp touches
      refine .locked .exclusive List.mem_cons_self (fun _ => rfl) (Or.inl ?_) ?_
      · simp [Scopes.inner, serviceScopes, ServiceStage.outer]
      · exact fun _ _ _ target => decide_eq_true target
  | onDescribeClients client video own =>
      cases List.mem_singleton.mp touches
      refine .locked .exclusive List.mem_cons_self (fun _ => rfl) (Or.inl ?_) ?_
      · simp [Scopes.inner, serviceScopes, ServiceStage.outer]
      · exact fun _ _ _ target => decide_eq_true target
  | onPlayClients client own npt =>
      cases List.mem_singleton.mp touches
      refine .locked .exclusive List.mem_cons_self (fun _ => rfl) (Or.inl ?_) ?_
      · simp [Scopes.inner, serviceScopes, ServiceStage.outer]
      · exact fun _ _ _ target => decide_eq_true target
  | processSdp own video gb context =>
      cases List.mem_singleton.mp touches
      exact .locked .exclusive List.mem_cons_self (fun _ => rfl) (Or.inr rfl)
        (fun _ _ _ target => decide_eq_true target)
  | consumePkt own packet rest =>
      simp only [ServiceStage.members, List.mem_cons, Prod.mk.injEq, ServiceRegion.clients.injEq,
        reduceCtorEq, false_and, List.not_mem_nil, or_false] at touches
      obtain ⟨rfl, rfl⟩ := touches
      exact .locked .shared List.mem_cons_self nofun (Or.inr rfl) nofun
  | registerVideo video target =>
      simp only [ServiceStage.members, List.mem_cons, Prod.mk.injEq, reduceCtorEq, false_and,
        false_or, List.mem_map, Option.mem_toList, ServiceRegion.clients.injEq] at touches
      obtain ⟨own, rfl, rfl, rfl⟩ := touches
      refine .locked .exclusive ?_ nofun (Or.inl ?_) nofun
      · exact List.mem_cons_of_mem _ List.mem_cons_self
      · simp [Scopes.inner, serviceScopes, ServiceStage.outer]
  | close client =>
      exact .closing (List.mem_cons_of_mem _ List.mem_cons_self) (fun _ calls => calls)
  | eraseProxy video =>
      exact .closing (List.mem_cons_of_mem _ List.mem_cons_self) (fun _ calls => calls)
  | inviteCallback invite completion =>
      simp only [ServiceStage.members, List.mem_cons, Prod.mk.injEq, reduceCtorEq, false_and,
        false_or, List.mem_map, Option.mem_toList, ServiceRegion.clients.injEq] at touches
      obtain ⟨own, target, rfl, rfl⟩ := touches
      exact .error invite completion rfl target rfl
  | onOptions =>
      simp only [ServiceStage.members] at touches
      split at touches <;> simp at touches
  | _ => simp [ServiceStage.members] at touches

theorem known_of_closing (holds : (.rtspServer, .exclusive) ∈ serviceScopes.inner stage)
    (meets : ∀ begun, (begun.callsBack? data).isSome = true → stage.unguarded data begun = true)
    (theirs : ClientsAccess data proxy begun taken) : Known data stage begun := by
  cases theirs with
  | locked own _ _ server _ =>
      rcases server with shared | calls
      · exact (known_of_exclusive shared holds).symm
      · exact Or.inr (Or.inl (meets begun (by rw [calls]; rfl)))
  | closing others _ => exact known_of_exclusive holds others
  | error invite completion same target _ =>
      subst same
      exact Or.inr (Or.inl (meets _ (by rw [ServiceStage.callsBack?, target]; rfl)))

theorem known_of_clients (mine : (.clients proxy, mode) ∈ stage.members data)
    (theirs : (.clients proxy, taken) ∈ begun.members data) (conflict : mode.Conflicts taken) :
    Known data stage begun := by
  have second := clients_access theirs
  cases clients_access mine with
  | closing holds meets => exact known_of_closing holds meets second
  | locked own holds enough server meets =>
      cases second with
      | closing others far => exact (known_of_closing others far (clients_access mine)).symm
      | locked other locks sufficient _ _ =>
          -- The one that writes holds the client lock exclusively.
          refine Or.inl ⟨.client proxy, own, other, holds, locks, ?_⟩
          rintro ⟨rfl, rfl⟩
          refine conflict ⟨?_, ?_⟩
          · cases mode with
            | shared => rfl
            | exclusive => cases enough rfl
          · cases taken with
            | shared => rfl
            | exclusive => cases sufficient rfl
      | error invite completion same target reads =>
          subst same reads
          exact Or.inr (Or.inr
            (meets (LockMode.eq_exclusive_of_conflicts conflict) invite completion target))
  | error invite completion same target reads =>
      subst same reads
      cases second with
      | closing others far => exact (known_of_closing others far (clients_access mine)).symm
      | locked _ _ _ _ meets =>
          exact Or.inr (Or.inl
            (meets (LockMode.eq_exclusive_of_conflicts conflict.symm) invite completion target))
      | error _ _ _ _ reads => exact absurd ⟨rfl, reads⟩ conflict

theorem known_of_sendBuffer (mine : (.sendBuffer proxy, mode) ∈ stage.members data)
    (theirs : (.sendBuffer proxy, taken) ∈ begun.members data) : Known data stage begun := by
  have users {stage : ServiceStage Client} {mode : LockMode}
      (touches : (.sendBuffer proxy, mode) ∈ stage.members data) :
      (∃ packet rest, stage = .consumePkt proxy packet rest) ∨
        ∃ video, stage = .eraseProxy video := by
    cases stage with
    | consumePkt own packet rest =>
        simp only [ServiceStage.members, List.mem_cons, Prod.mk.injEq, reduceCtorEq, false_and,
          false_or, ServiceRegion.sendBuffer.injEq, List.not_mem_nil, or_false] at touches
        exact Or.inl ⟨packet, rest, by rw [touches.1]⟩
    | eraseProxy video => exact Or.inr ⟨video, rfl⟩
    | onOptions =>
        simp only [ServiceStage.members] at touches
        split at touches <;> simp at touches
    | _ => simp [ServiceStage.members] at touches
  rcases users mine with ⟨packet, rest, rfl⟩ | ⟨video, rfl⟩
  · rcases users theirs with ⟨other, later, rfl⟩ | ⟨video, rfl⟩
    · exact Or.inr (Or.inl (decide_eq_true rfl))
    · exact Or.inr (Or.inr rfl)
  · rcases users theirs with ⟨other, later, rfl⟩ | ⟨other, rfl⟩
    · exact Or.inr (Or.inl rfl)
    · have closing (video : VideoRequest) : (.rtspServer, .exclusive) ∈
          serviceScopes.inner (.eraseProxy video : ServiceStage Client) :=
        List.mem_cons_of_mem _ List.mem_cons_self
      exact known_of_exclusive (closing video) (closing other)

theorem inner_of_contextMap (touches : (.contextMap, mode) ∈ stage.members data) :
    (.rtpContext, .exclusive) ∈ serviceScopes.inner stage := by
  cases stage with
  | registerVideo | unregisterVideo => exact List.mem_cons_self
  | onOptions =>
      simp only [ServiceStage.members] at touches
      split at touches <;> simp at touches
  | _ => simp [ServiceStage.members] at touches

theorem context_access {address : Nat} (touches : (.context address, mode) ∈ stage.members data) :
    (.rtpContext, .exclusive) ∈ serviceScopes.inner stage ∨
      (.rtpContext, .shared) ∈ serviceScopes.inner stage ∧
        ((∃ invite completion, stage = .inviteCallback invite completion ∧
            invite.context = address) ∨
          ∃ packets, stage = .handlePacket address packets) := by
  cases stage with
  | unregisterVideo => exact Or.inl List.mem_cons_self
  | handlePacket context packets =>
      cases List.mem_singleton.mp touches
      exact Or.inr ⟨List.mem_cons_self, Or.inr ⟨packets, rfl⟩⟩
  | inviteCallback invite completion =>
      simp only [ServiceStage.members, List.mem_cons, Prod.mk.injEq, ServiceRegion.context.injEq,
        List.mem_map, reduceCtorEq, false_and, and_false, exists_false, or_false] at touches
      exact Or.inr ⟨List.mem_cons_self, Or.inl ⟨invite, completion, rfl, touches.1.symm⟩⟩
  | onOptions =>
      simp only [ServiceStage.members] at touches
      split at touches <;> simp at touches
  | _ => simp [ServiceStage.members] at touches

theorem known_of_context {address : Nat} (mine : (.context address, mode) ∈ stage.members data)
    (theirs : (.context address, taken) ∈ begun.members data) : Known data stage begun := by
  rcases context_access mine with exclusive | ⟨shared, first⟩
  · rcases context_access theirs with others | ⟨others, _⟩
    · exact known_of_exclusive exclusive others
    · exact (known_of_exclusive others exclusive).symm
  · rcases context_access theirs with others | ⟨_, second⟩
    · exact known_of_exclusive shared others
    · rcases first with ⟨invite, completion, rfl, rfl⟩ | ⟨packets, rfl⟩
      · rcases second with ⟨other, answer, rfl, same⟩ | ⟨packets, rfl⟩
        · exact Or.inr (Or.inl (decide_eq_true same.symm))
        · exact Or.inr (Or.inl (decide_eq_true rfl))
      · rcases second with ⟨other, answer, rfl, same⟩ | ⟨others, rfl⟩
        · exact Or.inr (Or.inr (decide_eq_true same))
        · exact Or.inr (Or.inl (decide_eq_true rfl))

theorem inner_of_peers (touches : (.peers, mode) ∈ stage.members data) :
    (.network, mode) ∈ serviceScopes.inner stage := by
  cases stage with
  | registerPeer | datagram =>
      cases List.mem_singleton.mp touches
      exact List.mem_cons_self
  | onOptions =>
      simp only [ServiceStage.members] at touches
      split at touches <;> simp at touches
  | _ => simp [ServiceStage.members] at touches

theorem connections_not_mem_members {phase : Phase} :
    (.connections proxy phase, mode) ∉ stage.members data := by
  cases stage with
  | onOptions =>
      simp only [ServiceStage.members]
      split <;> simp
  | _ => simp [ServiceStage.members]

theorem connections_access {phase : Phase}
    (touches : (.connections proxy phase, mode) ∈ stage.touches data) :
    (mode = .shared ∧ (proxy, phase) ∈ stage.uses data) ∨
      ∃ client, stage = .errorcb client ∧ (proxy, phase) ∈ data.places client := by
  simp only [ServiceStage.touches, List.mem_append, List.mem_map, Prod.mk.injEq,
    ServiceRegion.connections.injEq] at touches
  rcases touches with (member | ⟨place, used, ⟨rfl, rfl⟩, rfl⟩) | ⟨place, gone, ⟨rfl, rfl⟩, rfl⟩
  · exact absurd member connections_not_mem_members
  · exact Or.inl ⟨rfl, used⟩
  · cases stage with
    | errorcb client => exact Or.inr ⟨client, rfl, gone⟩
    | _ => cases gone

theorem unguarded_of_uses {client : Client} {place : Nat × Phase}
    (gone : place ∈ data.places client) (used : place ∈ begun.uses data) :
    (ServiceStage.errorcb client).unguarded data begun = true :=
  List.any_eq_true.mpr ⟨place, used, decide_eq_true gone⟩

theorem known_of_connections {phase : Phase}
    (mine : (.connections proxy phase, mode) ∈ stage.touches data)
    (theirs : (.connections proxy phase, taken) ∈ begun.touches data)
    (conflict : mode.Conflicts taken) : Known data stage begun := by
  rcases connections_access mine with ⟨reads, used⟩ | ⟨client, rfl, gone⟩
  · rcases connections_access theirs with ⟨others, _⟩ | ⟨client, rfl, gone⟩
    · exact absurd ⟨reads, others⟩ conflict
    · exact Or.inr (Or.inr (unguarded_of_uses gone used))
  · rcases connections_access theirs with ⟨_, used⟩ | ⟨other, rfl, _⟩
    · exact Or.inr (Or.inl (unguarded_of_uses gone used))
    · exact known_of_exclusive List.mem_cons_self List.mem_cons_self

theorem known_of_members {region : ServiceRegion} (mine : (region, mode) ∈ stage.members data)
    (theirs : (region, taken) ∈ begun.members data) (conflict : mode.Conflicts taken) :
    Known data stage begun := by
  cases region with
  | servers =>
      exact Or.inl ⟨_, mode, taken, inner_of_servers mine, inner_of_servers theirs, conflict⟩
  | proxyMap => exact known_of_proxyMap mine theirs conflict
  | clients proxy => exact known_of_clients mine theirs conflict
  | sendBuffer proxy => exact known_of_sendBuffer mine theirs
  | connections proxy phase => exact absurd mine connections_not_mem_members
  | contextMap => exact known_of_exclusive (inner_of_contextMap mine) (inner_of_contextMap theirs)
  | context address => exact known_of_context mine theirs
  | peers => exact Or.inl ⟨_, mode, taken, inner_of_peers mine, inner_of_peers theirs, conflict⟩

theorem mem_members {region : ServiceRegion} (touches : (region, mode) ∈ stage.touches data)
    (other : ∀ proxy phase, region ≠ .connections proxy phase) :
    (region, mode) ∈ stage.members data := by
  simp only [ServiceStage.touches, List.mem_append, List.mem_map, Prod.mk.injEq] at touches
  rcases touches with (member | ⟨place, _, same, _⟩) | ⟨place, _, same, _⟩
  · exact member
  · exact absurd same.symm (other place.1 place.2)
  · exact absurd same.symm (other place.1 place.2)

/-- Sections that work on the same data are kept apart by a lock, or are among the known
ones. -/
theorem known_of_overlap (overlap : Overlap (stage.touches data) (begun.touches data)) :
    Known data stage begun := by
  obtain ⟨⟨region, mode⟩, mine, ⟨_, taken⟩, theirs, rfl, conflict⟩ := overlap
  by_cases connected : ∃ proxy phase, region = .connections proxy phase
  · obtain ⟨proxy, phase, rfl⟩ := connected
    exact known_of_connections mine theirs conflict
  · have other (proxy : Nat) (phase : Phase) : region ≠ .connections proxy phase :=
      fun same => connected ⟨proxy, phase, same⟩
    exact known_of_members (mem_members mine other) (mem_members theirs other) conflict

end Locks

theorem meets_of_races {state : ServiceThreads Thread Client} {thread other : Thread}
    (regular : Regular state) (races : serviceHazards.Races state thread other) :
    state.Meets thread other ∨ state.Meets other thread := by
  obtain ⟨stage, begun, here, there, overlap⟩ := races.inside
  have meets {thread other : Thread} {stage begun : ServiceStage Client}
      (different : thread ≠ other)
      (here : state.points thread = .inside stage) (there : state.points other = .inside begun)
      (unguarded : stage.unguarded state.data begun = true) : state.Meets thread other := by
    refine ⟨different, ?_⟩
    rw [here, there]
    exact unguarded
  rcases known_of_overlap overlap with ⟨lock, mode, taken, mine, theirs, conflict⟩ | known | known
  · exact absurd conflict (regular.toOrderly.not_both races.1 here there mine theirs)
  · exact Or.inl (meets races.1 here there known)
  · exact Or.inr (meets races.1.symm there here known)

/-! ### Runs -/

abbrev HazardousStep (Thread Client : Type) : Type :=
  LockProgram.HazardousStep Thread (SharedData Client) (ThreadCall Client) (ServiceStage Client)
    ServiceLock

/-- No callback has lost its proxy or uses a freed connection, and no two threads are inside
sections that no lock keeps apart. -/
def Guarded (state : ServiceThreads Thread Client) (_ : HazardousStep Thread Client) : Prop :=
  (∀ thread, ¬serviceHazards.Dangles state thread) ∧ ∀ thread other, ¬state.Meets thread other

variable [Fintype Thread] [DecidableEq Thread]

instance (state : ServiceThreads Thread Client) (label : HazardousStep Thread Client) :
    Decidable (state.Guarded label) :=
  inferInstanceAs (Decidable (_ ∧ _))

def hazardousMachine : LabelledMachine (ServiceThreads Thread Client)
    (HazardousStep Thread Client) Unit :=
  serviceProgram.hazardousMachine serviceHazards

def hazardousAfter (config : ProducerConfig) (labels : List (HazardousStep Thread Client)) :
    ServiceThreads Thread Client :=
  hazardousMachine.run (initial config) labels

theorem hazardousAfter_eq (config : ProducerConfig) {labels : List (HazardousStep Thread Client)}
    (guarded : hazardousMachine.Along Guarded (initial config) labels) :
    hazardousAfter config labels = after config (labels.map HazardousStep.step) := by
  refine run_hazardous_eq Regular ?_ ?_ ?_ (regular_initial config) guarded
  · exact fun _ _ regular => regular_step regular
  · exact fun _ _ _ guard => guard.1
  · intro state _ regular guard thread other races
    exact (meets_of_races regular races).elim (guard.2 _ _) (guard.2 _ _)

end ServiceThreads

end Ffvms.Concrete
