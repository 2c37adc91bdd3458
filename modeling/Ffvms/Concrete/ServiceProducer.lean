/-
The RTSP service and the producer together.

A request handler runs on the service and makes its calls on the producer; a
section of the producer runs and invokes the callbacks of its registrations,
each bound to one proxy of the service.  The composed machine has the requests of
the clients and the sections of the producer as its steps, in any order.
-/

import Ffvms.Concrete.RtspService
import Ffvms.Concrete.RtpProducerInvariant
import Ffvms.Concrete.RtspServiceLifetime

namespace Ffvms.Concrete

variable {Client : Type} [DecidableEq Client]

namespace RtspService

def callback (service : RtspService Client) : Effect Nat → RtspService Client
  | .callback registration (.processSdp sdp) =>
      service.processSdpFunction registration.target sdp
  | .callback registration (.consumePkt data) =>
      service.consumePktFunction registration.target data
  | .callback registration (.processError _) => service.processErrorFunction registration.target
  | _ => service

def deliver (service : RtspService Client) (effects : List (Effect Nat)) : RtspService Client :=
  effects.foldl callback service

end RtspService

def ProducerCall.step : ProducerCall → RtpProducer.Step Nat
  | .registerVideo video proxy => .registerVideo video proxy
  | .unregisterVideo video => .unregisterVideo video

structure ServiceProducer (Client : Type) where
  service : RtspService Client
  producer : RtpProducer Nat

namespace ServiceProducer

def initial (config : ProducerConfig) : ServiceProducer Client :=
  ⟨RtspService.initial, RtpProducer.initial config⟩

inductive Step (Client : Type) where
  | request (step : RtspService.Step Client)
  | work (step : RtpProducer.Step Nat)

def IsRequest : RtspService.Step Client → Prop
  | .options _ _ | .describe _ _ | .play _ _ _ | .close _ => True
  | .processSdp _ _ | .consumePkt _ _ | .processError _ => False

instance : (step : RtspService.Step Client) → Decidable (IsRequest step)
  | .options _ _ | .describe _ _ | .play _ _ _ | .close _ => isTrue trivial
  | .processSdp _ _ | .consumePkt _ _ | .processError _ => isFalse id

def IsWork : RtpProducer.Step Nat → Prop
  | .registerVideo _ _ | .unregisterVideo _ => False
  | .probeFile _ _ | .reportFile _ | .cleanFile _ | .getFrame _ _ _ | .inviteCallback _ _
  | .receiveDatagram _ _ _ => True

instance : (step : RtpProducer.Step Nat) → Decidable (IsWork step)
  | .registerVideo _ _ | .unregisterVideo _ => isFalse id
  | .probeFile _ _ | .reportFile _ | .cleanFile _ | .getFrame _ _ _ | .inviteCallback _ _
  | .receiveDatagram _ _ _ => isTrue trivial

def handled (system : ServiceProducer Client) : Step Client → RtspService Client
  | .request step => if IsRequest step then (system.service.perform step).service else system.service
  | .work _ => system.service

def calls (system : ServiceProducer Client) : Step Client → List (RtpProducer.Step Nat)
  | .request step =>
      if IsRequest step then (system.service.perform step).calls.map ProducerCall.step else []
  | .work step => if IsWork step then [step] else []

def effects (system : ServiceProducer Client) (step : Step Client) : List (Effect Nat) :=
  RtpProducer.machine.trace system.producer (system.calls step)

def machine : LabelledMachine (ServiceProducer Client) (Step Client) (Effect Nat) :=
  { next := fun system step =>
      ⟨(system.handled step).deliver (system.effects step),
        RtpProducer.machine.run system.producer (system.calls step)⟩
    emit := effects }

def after (config : ProducerConfig) (steps : List (Step Client)) : ServiceProducer Client :=
  machine.run (initial config) steps

/-- After the step every context and every unfinished task is bound to a proxy in
the map.  In the step no callback is invoked on an erased proxy, and a
description does not have its registration refused. -/
structure Agrees (system : ServiceProducer Client) (step : Step Client) : Prop where
  bound : ∀ registration, (machine.next system step).producer.Registered registration →
    (machine.next system step).service.Live registration.target
  alive : ∀ before registration call later,
    system.effects step = before ++ .callback registration call :: later →
      ((system.handled step).deliver before).Live registration.target
  accepted : ∀ client uri, step = .request (.describe client uri) →
    ∀ registration, .callback registration (.processError .tooManyFilesOpen) ∉
      system.effects step

/-- The last client past DESCRIBE leaves a proxy only when no task of the producer
is bound to the proxy and, if its SDP has not come, no context either. -/
def CloseSettled (system : ServiceProducer Client) : Step Client → Prop
  | .request (.close client) => ∀ video proxy,
      system.service.holder client = some (video, proxy) → proxy.Unattended client →
      (∀ serial task, system.producer.fileTasks.find? serial = some task →
        task.registration.target ≠ proxy.identity) ∧
      (proxy.registered = false → ∀ registration, system.producer.Registered registration →
        registration.target ≠ proxy.identity)
  | _ => True

end ServiceProducer

end Ffvms.Concrete
