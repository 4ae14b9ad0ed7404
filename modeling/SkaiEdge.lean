import SkaiEdge.Lib.Runs
import SkaiEdge.Lib.Stream
import SkaiEdge.Lib.LossyFeed
import SkaiEdge.Lib.Text
import SkaiEdge.Lib.InPlace
import SkaiEdge.Core.BoundedQueue
import SkaiEdge.Core.QueueFeed
import SkaiEdge.Config.Endpoint
import SkaiEdge.Video.EncodedAccessUnit
import SkaiEdge.WebRtc.WhipPublisher
import SkaiEdge.WebRtc.WhipDelivery
import SkaiEdge.WebRtc.NackResponder
import SkaiEdge.WebRtc.WhipResource
import SkaiEdge.WebRtc.WhipRtpClock
import SkaiEdge.WebRtc.WhipLifecycle
import SkaiEdge.Video.RecordingController
import SkaiEdge.Video.RecordingQuota
import SkaiEdge.Video.RecordingModule
import SkaiEdge.Video.RecordingRequests
import SkaiEdge.Video.RecordingDelivery
import SkaiEdge.Video.RecordingStorage
import SkaiEdge.WebRtc.WebRtcManager
import SkaiEdge.WebRtc.WhepFeed
import SkaiEdge.WebRtc.WhepDelivery
import SkaiEdge.Alerts.AlertManager
import SkaiEdge.Inference.YoloInferenceModule
import SkaiEdge.Inference.AlertStreak
import SkaiEdge.Alerts.RuleSemantics
import SkaiEdge.Lib.Greedy
import SkaiEdge.Inference.YoloPostprocess
import SkaiEdge.Lib.Path
import SkaiEdge.Lib.Script
import SkaiEdge.Storage.AlertStore
import SkaiEdge.Storage.SnapshotNames
import SkaiEdge.Storage.AlertIntegrity
import SkaiEdge.Storage.AlertRuns
import SkaiEdge.Storage.CleanupRecovery
import SkaiEdge.Storage.PersistFailure
import SkaiEdge.Storage.Retention
import SkaiEdge.Lib.AnnexB
import SkaiEdge.Core.QueueLaws
import SkaiEdge.WebRtc.DetectionSei
import SkaiEdge.WebRtc.SeiReader
import SkaiEdge.WebRtc.SeiInsertion
import SkaiEdge.Lib.Json
import SkaiEdge.WebRtc.SeiJson
import SkaiEdge.WebRtc.SeiResultSelector
import SkaiEdge.WebRtc.SeiFitting
import SkaiEdge.WebRtc.SeiLedger
import SkaiEdge.WebRtc.SeiUplink
import SkaiEdge.WebRtc.SeiAlignment
import SkaiEdge.WebRtc.SessionChange
import SkaiEdge.WebRtc.SessionRegistry
import SkaiEdge.Api.ApiState
import SkaiEdge.Api.DetectorPermit
import SkaiEdge.App.Application
import SkaiEdge.App.Lifecycle
import SkaiEdge.Web.WebSocketSession
import SkaiEdge.Web.EventDelivery
import SkaiEdge.Browser.WhepClient
import SkaiEdge.Browser.WhepOwnership
import SkaiEdge.Inference.TensorLayout
import SkaiEdge.Browser.DetectionOverlay
import SkaiEdge.Video.RtspRecovery
import SkaiEdge.Web.QueryParameters
import SkaiEdge.Config.RtspUrl
import SkaiEdge.Video.H264Encoder
import SkaiEdge.Inference.CandidateOrder
import SkaiEdge.Inference.Preprocess
import SkaiEdge.Lib.Writes
import SkaiEdge.Inference.PreprocessCuda
import SkaiEdge.Storage.AlertRepository
import SkaiEdge.Lib.FifoCache
import SkaiEdge.WebRtc.NackCache
import SkaiEdge.Video.RtspMetrics
import SkaiEdge.Video.RtspSource
import SkaiEdge.Video.RtspMoves
import SkaiEdge.Video.RtspLifetime
import SkaiEdge.Video.RtspStream
import SkaiEdge.Video.RtspLosses
import SkaiEdge.Video.RtspShutdown
import SkaiEdge.Lib.Fanout
import SkaiEdge.Web.EventHub
import SkaiEdge.Web.EventReach
import SkaiEdge.Web.WhepSignaling
import SkaiEdge.Web.WhepAnswers
import SkaiEdge.Lib.JsonComplete
import SkaiEdge.Lib.GeneralFormat
import SkaiEdge.Lib.JsonDocument
import SkaiEdge.App.Diagnostics
import SkaiEdge.App.Health
import SkaiEdge.Web.JsonDocuments
import SkaiEdge.Web.Router
import SkaiEdge.Config.Reading
import SkaiEdge.Config.Config
import SkaiEdge.Config.Description
import SkaiEdge.Config.Validation
import SkaiEdge.Web.PublicConfig
