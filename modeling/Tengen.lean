import Tengen.BranchRepo
import Tengen.CallRules
import Tengen.Consumed
import Tengen.ConsumedReach
import Tengen.CorrelateStamps
import Tengen.DetectTable
import Tengen.Discovery
import Tengen.FieldLedger
import Tengen.FieldReview
import Tengen.FirstSample
import Tengen.ForwardQueue
import Tengen.IpText
import Tengen.Kafka
import Tengen.KeyOrder
import Tengen.LegalNames
import Tengen.Mappings
import Tengen.MetricsEmitter
import Tengen.MetricsQueue
import Tengen.MetricsShutdown
import Tengen.N8nResponse
import Tengen.N8nRetries
import Tengen.NewFields
import Tengen.Normalizers
import Tengen.Orchestrator
import Tengen.Pipeline
import Tengen.Promotions
import Tengen.ProposalLimit
import Tengen.PubSub
import Tengen.Recurrence
import Tengen.Redelivery
import Tengen.RegistryCallers
import Tengen.Relay
import Tengen.RouteAgreement
import Tengen.RouteContract
import Tengen.RouteOrder
import Tengen.RouteTool
import Tengen.RouteWatch
import Tengen.RouterMetrics
import Tengen.RunbookContext
import Tengen.Runbooks
import Tengen.SampleType
import Tengen.Scaffold
import Tengen.Score
import Tengen.ScoreOrder
import Tengen.Spelling
import Tengen.SplunkBatches
import Tengen.SplunkLedger
import Tengen.Sqs
import Tengen.SuggestionFields
import Tengen.TriageSession
import Tengen.UdmParser
import Tengen.UdmRecovery
import Tengen.Universal
import Tengen.WorkOrder
import Tengen.Workers
