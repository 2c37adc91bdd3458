/-
The threads of the service together with those that play files.

To the threads of `ServiceThreads` come the workers that run the queued tasks of the
file videos and the event threads that call `FFGetFrame`.  `mFileContextMutex` is among
the locks.  So is the callback of each frame timer: libevent's `event_del`, which the
destructor of a context calls, waits for a callback that is under way.  An erase unlinks
the context from the map first and destroys it then, so that for a while it is in the
hands of the one who erases it.  A context is known by the number of its registration.  A
thread that follows a wild pointer goes no further here, and the others do.
-/

import Ffvms.Concrete.ServiceThreadsSections

namespace Ffvms.Concrete

variable {Client : Type} [DecidableEq Client]

inductive MediaLock where
  | service (lock : ServiceLock)
  | fileContext
  | event (context : Nat)
  deriving DecidableEq, Repr

inductive MediaCall (Client : Type) where
  | service (call : ThreadCall Client)
  | registerFile (video : VideoRequest)
  | unregisterFile (video : VideoRequest)
  | fileTask (serial : Nat) (probe : Probe)
  | frame (context : Nat) (packets : List (List UInt8)) (ret : Int)

/-- The sections of `ServiceThreads` and those of the file videos.  The task of a
registration and the context of a timer are part of the stage. -/
inductive MediaStage (Client : Type) where
  | service (stage : ServiceStage Client)
  | registerFile (video : VideoRequest) (target : Option Nat)
  | unregisterFile (video : VideoRequest) (closing : Bool)
  | deleteEvent (context : Nat) (closing : Option VideoRequest)
  | eraseClosed (video : VideoRequest)
  | probeFile (task : FileTask (Option Nat)) (probe : Probe)
  | fileSdp (task : FileTask (Option Nat)) (probe : Probe) (proxy : Nat)
  | startFile (task : FileTask (Option Nat)) (probe : Probe)
  | replaceEvent (context : Nat) (task : FileTask (Option Nat)) (probe : Probe)
  | reportFile (task : FileTask (Option Nat))
  | cleanFile (task : FileTask (Option Nat))
  | getFrame (context : Nat) (packets : List (List UInt8)) (ret : Int)
  | framePkt (context : Nat) (proxy : Nat) (packet : List UInt8) (rest : List (List UInt8))
      (ret : Int)
  | frameEnd (context : Nat) (ret : Int)

/-- Contexts that have been unlinked from the map are kept until they are destroyed. -/
structure MediaData (Client : Type) extends SharedData Client where
  unlinked : List (FileVideoContext (Option Nat))

namespace RtpProducer

variable {Target : Type}

def timer? (producer : RtpProducer Target) (video : VideoRequest) :
    Option (FileVideoContext Target) :=
  (producer.fileVideoContextMap.find? video).filter (fun context => context.fileEvent)

/-- The timer could not be made or armed, and the task goes on later. -/
def requeue (producer : RtpProducer Target) (task : FileTask Target) (probe : Probe) (ret : Int) :
    RtpProducer Target :=
  { producer with
    fileVideoContextMap := producer.fileVideoContextMap.modify task.video
      (fun context => { context.setFormats probe with fileEvent := false })
    fileTasks := producer.fileTasks.insert task.registration.serial
      { task with phase := if ret ≠ 0 then .reporting ret else .cleaning } }

end RtpProducer

namespace MediaData

def initial (config : ProducerConfig) : MediaData Client :=
  { SharedData.initial config with unlinked := [] }

def embed (data : MediaData Client) (result : SharedData Client × StageExit (ServiceStage Client)) :
    MediaData Client × StageExit (MediaStage Client) :=
  ({ data with toSharedData := result.1 },
    match result.2 with
    | .nest next => .nest (.service next)
    | .leave next => .leave (.service next)
    | .finish => .finish)

/-! ### Contexts -/

/-- The contexts that have not been destroyed. -/
def contexts (data : MediaData Client) : List (FileVideoContext (Option Nat)) :=
  data.producer.fileVideoContextMap.entries.map Prod.snd ++ data.unlinked

def contextAt? (data : MediaData Client) (context : Nat) :
    Option (FileVideoContext (Option Nat)) :=
  data.contexts.find? (fun found => found.registration.serial = context)

def eventAt? (data : MediaData Client) (context : Nat) :
    Option (FileVideoContext (Option Nat)) :=
  (data.contextAt? context).filter (fun found => found.fileEvent)

def setError (data : MediaData Client) (context : Nat) (ret : Int) : MediaData Client :=
  let mark (found : FileVideoContext (Option Nat)) : FileVideoContext (Option Nat) :=
    if found.registration.serial = context then { found with error := ret } else found
  { data with
    producer :=
      { data.producer with
        fileVideoContextMap := data.producer.fileVideoContextMap.mapValues (fun _ => mark) }
    unlinked := data.unlinked.map mark }

def eraseFile (data : MediaData Client) (video : VideoRequest) : MediaData Client :=
  { data with producer := data.producer.eraseFile video }

/-- The first half of an erase. -/
def unlink (data : MediaData Client) (video : VideoRequest)
    (context : FileVideoContext (Option Nat)) : MediaData Client :=
  { data.eraseFile video with unlinked := context :: data.unlinked }

/-- The second half, when `event_del` has returned. -/
def destroy (data : MediaData Client) (context : Nat) : MediaData Client :=
  { data with
    unlinked := data.unlinked.filter (fun found => found.registration.serial ≠ context) }

/-! ### Sections -/

def registerVideo (data : MediaData Client) (video : VideoRequest) (target : Option Nat) :
    MediaData Client :=
  { data with toSharedData := data.toSharedData.registerVideo video target }

def describeMedia (data : MediaData Client) (client : Client) (video : VideoRequest)
    (proxy : Nat) (found : ProxyInfo Client) :
    MediaData Client × StageExit (MediaStage Client) :=
  if video.useFile ∧ found.sourceSdp = "" ∧ found.waitingSdpClients = ∅ then
    let service := data.service.writeProxy proxy (fun info => info.described client)
    ({ data with service := { service with pendingSdp := proxy :: service.pendingSdp } },
      .nest (.registerFile video (some proxy)))
  else data.embed (data.describeFound client video proxy found)

def closeMedia (data : MediaData Client) (video : VideoRequest) (left : ProxyInfo Client) :
    MediaData Client × StageExit (MediaStage Client) :=
  if video.useFile ∧ left.needUnregistered ∧ left.registered then
    ({ data with service := data.service.storeProxy video left },
      .nest (.unregisterFile video true))
  else data.embed (data.closeFound video left)

/-- `mFileVideoContextMap.erase`: a context whose timer is there is destroyed in a section of
its own. -/
def eraseEntry (data : MediaData Client) (video : VideoRequest) (closing : Option VideoRequest)
    (rest : StageExit (MediaStage Client)) : MediaData Client × StageExit (MediaStage Client) :=
  match data.producer.timer? video with
  | some context =>
      (data.unlink video context, .nest (.deleteEvent context.registration.serial closing))
  | none => (data.eraseFile video, rest)

def probeFile (data : MediaData Client) (task : FileTask (Option Nat)) (probe : Probe) :
    MediaData Client × StageExit (MediaStage Client) :=
  match data.producer.fileVideoContextMap.find? task.video with
  | none => (data, .leave (.cleanFile task))
  | some context =>
      match RtpProducer.probeExit context probe, task.registration.target with
      | (_, some _), some proxy => (data, .nest (.fileSdp task probe proxy))
      | (_, some _), none => (data, .nest (.startFile task probe))
      | (.broke ret, none), _ =>
          ({ data with producer := data.producer.setFormats task.video probe },
            .leave (if ret ≠ 0 then .reportFile task else .cleanFile task))
      | (_, none), _ => (data, .finish)

/-- The new timer takes the place of the old one.  If it cannot be made or armed, the task
goes on with no lock held, as a call of its own. -/
def setTimer (data : MediaData Client) (task : FileTask (Option Nat)) (probe : Probe) :
    MediaData Client :=
  match probe.run.1 with
  | .broke ret => { data with producer := data.producer.requeue task probe ret }
  | .started | .crashed _ => { data with producer := data.producer.armFileEvent task.video }

/-- The rest of that section.  A timer that is there already is freed, which waits for its
callback. -/
def startFile (data : MediaData Client) (task : FileTask (Option Nat)) (probe : Probe) :
    MediaData Client × StageExit (MediaStage Client) :=
  match data.producer.timer? task.video with
  | some context => (data, .nest (.replaceEvent context.registration.serial task probe))
  | none => (data.setTimer task probe, .finish)

def callError (data : MediaData Client) (registration : Registration (Option Nat)) :
    MediaData Client :=
  { data with
    service := SharedData.callErrors data.service
      [registration.invoke (.processError .invalidArgument)] }

/-- The second section: a missing context is dereferenced all the same. -/
def reportFile (data : MediaData Client) (task : FileTask (Option Nat)) : MediaData Client :=
  match data.producer.fileVideoContextMap.find? task.video with
  | none => data
  | some context => data.callError context.registration

/-- `FFGetFrame` up to its first packet.  libevent calls it for a timer that has not been
deleted. -/
def getFrame (data : MediaData Client) (context : Nat) (packets : List (List UInt8))
    (ret : Int) : StageExit (MediaStage Client) :=
  match data.eventAt? context with
  | none => .finish
  | some found =>
      if found.error = 0 then
        match packets, found.registration.target with
        | packet :: rest, some proxy => .nest (.framePkt context proxy packet rest ret)
        | _, _ => .nest (.frameEnd context ret)
      else .finish

def frameEnd (data : MediaData Client) (context : Nat) (ret : Int) : MediaData Client :=
  match data.contextAt? context with
  | none => data
  | some found => if ret ≠ 0 then (data.setError context ret).callError found.registration else data

def body (data : MediaData Client) :
    MediaStage Client → MediaData Client × StageExit (MediaStage Client)
  | .service (.onDescribeClients client video proxy) =>
      match data.service.proxyAt? proxy with
      | none => (data, .finish)
      | some found => data.describeMedia client video proxy found
  | .service (.close client) =>
      match data.service.closeScan client with
      | none => (data, .finish)
      | some (video, left) => data.closeMedia video left
  | .service stage => data.embed (data.toSharedData.body stage)
  | .registerFile video target => (data.registerVideo video target, .finish)
  | .unregisterFile video true =>
      data.eraseEntry video (some video) (.leave (.service (.eraseProxy video)))
  | .unregisterFile video false => data.eraseEntry video none .finish
  | .deleteEvent context closing =>
      (data.destroy context, closing.elim .finish (fun video => .leave (.eraseClosed video)))
  | .eraseClosed video =>
      -- `UnregisterVideo` has given its lock back by now; here it goes with the others.
      ({ data with
         service := { data.service with proxies := data.service.proxies.erase video } }, .finish)
  | .probeFile task probe => data.probeFile task probe
  | .fileSdp task probe proxy =>
      ({ data with service := data.service.processSdpFunction proxy probe.sdp },
        .leave (.startFile task probe))
  | .startFile task probe => data.startFile task probe
  | .replaceEvent _ task probe => (data.setTimer task probe, .finish)
  | .reportFile task => (data.reportFile task, .leave (.cleanFile task))
  | .cleanFile task => data.eraseEntry task.video none .finish
  | .getFrame context packets ret => (data, data.getFrame context packets ret)
  | .framePkt context proxy packet rest ret =>
      ({ data with service := data.service.consumePktFunction proxy packet },
        .leave (match rest with
          | [] => .frameEnd context ret
          | next :: later => .framePkt context proxy next later ret))
  | .frameEnd context ret => (data.frameEnd context ret, .finish)

def enter (data : MediaData Client) :
    MediaCall Client → Option (MediaData Client × MediaStage Client)
  | .service call =>
      (data.toSharedData.enter call).map
        (fun entered => ({ data with toSharedData := entered.1 }, .service entered.2))
  | .registerFile video => if video.useFile then some (data, .registerFile video none) else none
  | .unregisterFile video =>
      if video.useFile then some (data, .unregisterFile video false) else none
  | .fileTask serial probe =>
      (data.producer.fileTasks.find? serial).map (fun task =>
        ({ data with producer := data.producer.endTask serial },
          match task.phase with
          | .probing => .probeFile task probe
          | .reporting _ => .reportFile task
          | .cleaning => .cleanFile task))
  | .frame context packets ret =>
      (data.eventAt? context).map (fun _ => (data, .getFrame context packets ret))

end MediaData

def MediaStage.lock? : MediaStage Client → Option (MediaLock × LockMode)
  | .service stage => stage.lock?.map (fun wanted => (.service wanted.1, wanted.2))
  | .registerFile _ _ | .unregisterFile _ _ | .cleanFile _ => some (.fileContext, .exclusive)
  | .probeFile _ _ | .reportFile _ => some (.fileContext, .shared)
  | .deleteEvent context _ | .replaceEvent context _ _ | .getFrame context _ _ =>
      some (.event context, .exclusive)
  | .fileSdp _ _ proxy => some (.service (.client proxy), .exclusive)
  | .framePkt _ proxy _ _ _ => some (.service (.client proxy), .shared)
  | .eraseClosed _ | .startFile _ _ | .frameEnd _ _ => none

def mediaProgram : LockProgram (MediaData Client) (MediaCall Client) (MediaStage Client)
    MediaLock :=
  { lock? := MediaStage.lock?
    enter := MediaData.enter
    body := MediaData.body }

abbrev MediaThreads (Thread Client : Type) : Type :=
  ThreadState Thread (MediaData Client) (MediaStage Client) MediaLock

namespace MediaThreads

variable {Thread : Type} [Fintype Thread] [DecidableEq Thread]

def initial (config : ProducerConfig) : MediaThreads Thread Client :=
  ThreadState.initial (MediaData.initial config)

def machine : LabelledMachine (MediaThreads Thread Client)
    (ThreadStep Thread (MediaCall Client)) Unit :=
  mediaProgram.machine

def after (config : ProducerConfig) (steps : List (ThreadStep Thread (MediaCall Client))) :
    MediaThreads Thread Client :=
  machine.run (initial config) steps

end MediaThreads

/-! ### Scopes -/

namespace MediaStage

def describing (proxy : Nat) : List (MediaLock × LockMode) :=
  [(.service (.client proxy), .exclusive), (.service .proxyInfo, .exclusive),
    (.service .rtspServer, .shared)]

def closing : Bool → List (MediaLock × LockMode)
  | true => [(.service .proxyInfo, .exclusive), (.service .rtspServer, .exclusive)]
  | false => []

def outer : MediaStage Client → List (MediaLock × LockMode)
  | .service stage => stage.outer.map (fun taken => (.service taken.1, taken.2))
  | .registerFile _ target => target.elim [] describing
  | .unregisterFile _ inClose => closing inClose
  | .deleteEvent _ video => (.fileContext, .exclusive) :: closing video.isSome
  | .eraseClosed _ => (.fileContext, .exclusive) :: closing true
  | .probeFile _ _ | .reportFile _ | .cleanFile _ | .getFrame _ _ _ => []
  | .fileSdp _ _ _ | .startFile _ _ | .replaceEvent _ _ _ => [(.fileContext, .shared)]
  | .framePkt context _ _ _ _ | .frameEnd context _ => [(.event context, .exclusive)]

end MediaStage

namespace MediaData

omit [DecidableEq Client] in
theorem outer_enter {data later : MediaData Client} {call : MediaCall Client}
    {stage : MediaStage Client} (enters : data.enter call = some (later, stage)) :
    stage.outer = [] := by
  cases call with
  | service call =>
      obtain ⟨entered, found, same⟩ := Option.map_eq_some_iff.mp enters
      cases same
      rw [MediaStage.outer, SharedData.outer_enter found]
      rfl
  | registerFile video | unregisterFile video =>
      simp only [enter] at enters
      split_ifs at enters
      cases enters
      rfl
  | fileTask serial probe =>
      obtain ⟨task, _, same⟩ := Option.map_eq_some_iff.mp enters
      cases same
      cases task.phase <;> rfl
  | frame context packets ret =>
      obtain ⟨found, _, same⟩ := Option.map_eq_some_iff.mp enters
      cases same
      rfl

/-- A nested section begins with the locks of the one around it, and the section after a
scope with the locks that the scope began with. -/
def Follows (stage : MediaStage Client) : StageExit (MediaStage Client) → Prop
  | .nest next => next.outer = stage.lock?.toList ++ stage.outer
  | .leave next => next.outer = stage.outer ∧ stage.lock?.isSome
  | .finish => True

omit [DecidableEq Client] in
theorem embed_follows (data : MediaData Client) {stage : ServiceStage Client}
    {result : SharedData Client × StageExit (ServiceStage Client)}
    (follows : SharedData.Follows stage result.2) :
    Follows (.service stage) (data.embed result).2 := by
  obtain ⟨shared, exit⟩ := result
  cases exit with
  | finish => trivial
  | leave next =>
      obtain ⟨same, taken⟩ := follows
      refine ⟨?_, ?_⟩
      · rw [MediaStage.outer, MediaStage.outer, same]
      · rw [MediaStage.lock?, Option.isSome_map]
        exact taken
  | nest next =>
      change MediaStage.outer (.service next) = _
      rw [MediaStage.outer, MediaStage.outer, MediaStage.lock?,
        (follows : next.outer = stage.lock?.toList ++ stage.outer), List.map_append]
      cases stage.lock? <;> rfl

theorem body_follows (data : MediaData Client) (stage : MediaStage Client) :
    Follows stage (data.body stage).2 := by
  cases stage with
  | service stage =>
      have plain : Follows (.service stage) (data.embed (data.toSharedData.body stage)).2 :=
        data.embed_follows (data.toSharedData.body_follows stage)
      cases stage with
      | onDescribeClients client video proxy =>
          simp only [body]
          split
          next => trivial
          next found located =>
            unfold describeMedia
            split_ifs
            · rfl
            · rw [SharedData.body, located] at plain
              exact plain
      | close client =>
          simp only [body]
          split
          next => trivial
          next video left scan =>
            unfold closeMedia
            split_ifs
            · rfl
            · rw [SharedData.body, scan] at plain
              exact plain
      | _ => exact plain
  | registerFile | eraseClosed | replaceEvent | frameEnd => trivial
  | unregisterFile video inClose =>
      cases inClose with
      | true =>
          simp only [body, eraseEntry]
          split
          · rfl
          · exact ⟨rfl, rfl⟩
      | false =>
          simp only [body, eraseEntry]
          split <;> trivial
  | cleanFile task =>
      simp only [body, eraseEntry]
      split <;> trivial
  | deleteEvent context closing =>
      cases closing with
      | none => trivial
      | some video => exact ⟨rfl, rfl⟩
  | probeFile task probe =>
      simp only [body, probeFile]
      split
      · exact ⟨rfl, rfl⟩
      · split
        · rfl
        · rfl
        · dsimp only
          split_ifs <;> exact ⟨rfl, rfl⟩
        · trivial
  | fileSdp | reportFile => exact ⟨rfl, rfl⟩
  | startFile task probe =>
      simp only [body, startFile]
      split <;> trivial
  | getFrame context packets ret =>
      simp only [body, getFrame]
      repeat' split
      all_goals trivial
  | framePkt context proxy packet rest ret =>
      cases rest <;> exact ⟨rfl, rfl⟩

end MediaData

def mediaScopes : (@mediaProgram Client _).Scopes :=
  { outer := MediaStage.outer
    outer_enter := MediaData.outer_enter
    outer_nest := by
      intro data stage next way
      have follows := data.body_follows stage
      change (data.body stage).2 = _ at way
      rw [way] at follows
      exact follows
    outer_leave := by
      intro data stage next way
      have follows := data.body_follows stage
      change (data.body stage).2 = _ at way
      rw [way] at follows
      exact follows }

end Ffvms.Concrete
