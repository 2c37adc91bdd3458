import Ffvms.LabelledRun
import Ffvms.OrderedMap
import Ffvms.SharedHeap
import Ffvms.Concrete.VideoRequest
import Ffvms.Concrete.RtspService
import Ffvms.Concrete.RtspServiceSteps
import Ffvms.Concrete.RtspServiceCleanup
import Ffvms.Concrete.RtspServiceInvariant
import Ffvms.Concrete.RtspServiceDescribe
import Ffvms.Concrete.RtspServiceLifetime
import Ffvms.Concrete.RtpProducer
import Ffvms.Concrete.RtpProducerSteps
import Ffvms.Concrete.RtpProducerInvariant
import Ffvms.Concrete.RtpProducerSilence
import Ffvms.Concrete.RtpProducerOutcome
import Ffvms.Concrete.RtpProducerCourse
import Ffvms.Concrete.RtpProducerReport
import Ffvms.Concrete.RtpProducerRollback
import Ffvms.Concrete.RtpProducerPeers
import Ffvms.Concrete.GbProtocol
import Ffvms.Concrete.GbProtocolSessions
import Ffvms.ByteMemory
import Ffvms.Concrete.NetworkServer
import Ffvms.Concrete.NetworkServerDispatch
import Ffvms.Concrete.ServiceProducer
import Ffvms.Concrete.ServiceProducerAgreement
import Ffvms.Concrete.ServiceProducerDeliveries
import Ffvms.Concrete.RtpProducerTasks
import Ffvms.Concrete.RtspServiceTeardown
import Ffvms.Concrete.RtspServiceRegistrations
import Ffvms.Concrete.RtspServiceFailure
import Ffvms.Concrete.FileVideoFrames
import Ffvms.Concrete.RtpProducerAcks
import Ffvms.Concrete.RtspServiceStream
import Ffvms.Concrete.NetworkServerWorkers
import Ffvms.Concrete.ServiceThreads
import Ffvms.Concrete.ServiceThreadsInvariant
import Ffvms.Concrete.ServiceThreadsDeadlock
import Ffvms.BinaryRounding
import Ffvms.CheckedInt
import Ffvms.Concrete.FileVideoPlayback
import Ffvms.Concrete.NetworkServerSlots
import Ffvms.Concrete.NetworkServerStartup
import Ffvms.Concrete.RtpProducerTail
import Ffvms.Concrete.VideoRequestUrl
import Ffvms.Concrete.GbPipeline
import Ffvms.Concrete.RtspServiceSetup
import Ffvms.MonitorProgram
import Ffvms.MonitorWakeup
import Ffvms.Concrete.ThreadPool
import Ffvms.Concrete.NetworkServerPools
import Ffvms.CompletionQueue
import Ffvms.Concrete.AsyncClient
import Ffvms.Concrete.AsyncClientCalls
import Ffvms.Concrete.AsyncClientShutdown
import Ffvms.Concrete.RtspServiceAgreement
import Ffvms.Concrete.ServiceThreadsAtomic
import Ffvms.Concrete.MediaThreads
import Ffvms.Concrete.MediaThreadsDeadlock
