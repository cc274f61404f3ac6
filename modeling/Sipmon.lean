import Sipmon.Lib.Run
import Sipmon.Lib.Leb128
import Sipmon.Lib.ByteReader
import Sipmon.Lib.BigEndian
import Sipmon.Source.F64
import Sipmon.Source.Packet
import Sipmon.Source.Evlog.Event
import Sipmon.Source.Evlog.Writer
import Sipmon.Source.Evlog.Reader
import Sipmon.Guarantees.EvlogFields
import Sipmon.Guarantees.EvlogPayloads
import Sipmon.Guarantees.EvlogRecords
import Sipmon.Guarantees.EvlogRoundTrip
import Sipmon.Guarantees.EvlogClock
import Sipmon.Guarantees.EvlogSessions
import Sipmon.Source.Sip
import Sipmon.Source.Text
import Sipmon.Source.CallMachine
import Sipmon.Guarantees.CallSignals
import Sipmon.Guarantees.CallAnswer
import Sipmon.Guarantees.CallRetransmission
import Sipmon.Lib.FiniteMap
import Sipmon.Lib.GroupIndex
import Sipmon.Source.Rtcp
import Sipmon.Source.Sdp
import Sipmon.Source.MediaStats
import Sipmon.Source.Diagnostics
import Sipmon.Source.RtpStream
import Sipmon.Source.Filter
import Sipmon.Source.Heatmap
import Sipmon.Source.IpStats
import Sipmon.Source.SipStats
import Sipmon.Source.TcpReasm
import Sipmon.Source.Registry
import Sipmon.Source.Config
import Sipmon.Source.Correlator
import Sipmon.Source.Ingest
import Sipmon.Guarantees.RegistryShape
import Sipmon.Guarantees.RegistryIndex
import Sipmon.Guarantees.TeardownLedger
import Sipmon.Guarantees.Teardown
import Sipmon.Guarantees.CallShare
import Sipmon.Guarantees.ShareTeardown
import Sipmon.Guarantees.ShareMedia
import Sipmon.Guarantees.CallIsolation
import Sipmon.Guarantees.StreamSheet
import Sipmon.Guarantees.FramedMessages
import Sipmon.Guarantees.TcpFraming
import Sipmon.Source.Frame
import Sipmon.Guarantees.TurnDemux
import Sipmon.Guarantees.TurnMarks
import Sipmon.Guarantees.TurnTransparency
import Sipmon.Guarantees.IpTraffic
import Sipmon.Guarantees.SentCounters
import Sipmon.Guarantees.IpConservation
import Sipmon.Guarantees.CallTable
import Sipmon.Guarantees.ActiveCalls
import Sipmon.Source.Evlog.Lite
import Sipmon.Source.EvStats
import Sipmon.Guarantees.EvlogLite
import Sipmon.Guarantees.StatsAgreement
import Sipmon.Source.EvReport
import Sipmon.Guarantees.SeizureCounts
import Sipmon.Guarantees.SaneRatios
import Sipmon.Guarantees.StoredText
import Sipmon.Guarantees.StoredTextSteps
import Sipmon.Guarantees.Truncation
import Sipmon.Guarantees.CapEviction
import Sipmon.Lib.Ranking
import Sipmon.Guarantees.SearchPins
import Sipmon.Guarantees.SnapshotWindow
import Sipmon.Guarantees.SnapshotAggregates
import Sipmon.Guarantees.SnapshotCaches
import Sipmon.Guarantees.Carried
import Sipmon.Guarantees.SignalingSeries
import Sipmon.Guarantees.SignalingConservation
import Sipmon.Guarantees.StreamAccounting
import Sipmon.Guarantees.LossReports
import Sipmon.Guarantees.LossCounting
import Sipmon.Guarantees.SnapDecoders
import Sipmon.Guarantees.SequenceRestart
import Sipmon.Guarantees.SequenceRuns
import Sipmon.Guarantees.CallClock
import Sipmon.Lib.Rounding
import Sipmon.Source.Timeline
import Sipmon.Guarantees.CallTimeline
import Sipmon.Guarantees.CallRecomputed
import Sipmon.Guarantees.CallFallback
import Sipmon.Guarantees.DialogLegs
import Sipmon.Guarantees.EvlogBuffers
import Sipmon.Guarantees.ExportOnce
import Sipmon.Guarantees.AddressText
import Sipmon.Source.Jsonl
import Sipmon.Guarantees.JsonlRows
import Sipmon.Guarantees.JsonlStable
import Sipmon.Lib.History
import Sipmon.Lib.BucketRing
import Sipmon.Guarantees.AnswerRings
import Sipmon.Guarantees.IpWindows
import Sipmon.Guarantees.LossHeatmap
import Sipmon.Guarantees.ImportedTotals
import Sipmon.Guarantees.HeatmapRetention
import Sipmon.Lib.CheckedAccess
import Sipmon.Source.FrameDecode
import Sipmon.Guarantees.FrameRoundTrip
import Sipmon.Guarantees.StunRoundTrip
import Sipmon.Guarantees.SdpSections
import Sipmon.Guarantees.CallRecords
import Sipmon.Guarantees.MediaMerge
import Sipmon.Guarantees.CallMemory
import Sipmon.Guarantees.NegotiatedCodecs
import Sipmon.Guarantees.ReorderSet
import Sipmon.Guarantees.WeightedPercentiles
import Sipmon.Source.RtcpDecode
import Sipmon.Guarantees.RtcpRoundTrip
import Sipmon.Lib.Scan
import Sipmon.Source.Masking
import Sipmon.Guarantees.Attributes
import Sipmon.Guarantees.TextLines
import Sipmon.Guarantees.ReasonText
import Sipmon.Guarantees.HeaderParams
import Sipmon.Guarantees.AddressEnds
import Sipmon.Guarantees.MaskedText
import Sipmon.Guarantees.AddressScan
import Sipmon.Guarantees.MaskedNames
import Sipmon.Guarantees.LiteralPlaces
import Sipmon.Guarantees.MaskedAddresses
import Sipmon.Lib.GroupedTable
import Sipmon.Guarantees.WindowRows
import Sipmon.Source.Focus
import Sipmon.Source.App
import Sipmon.Guarantees.UiModes
import Sipmon.Guarantees.UiSelection
import Sipmon.Lib.KeptOrder
import Sipmon.Guarantees.IpTable
import Sipmon.Source.Monitor
import Sipmon.Guarantees.FrameMoves
import Sipmon.Guarantees.EventTimes
import Sipmon.Guarantees.Deeds
import Sipmon.Guarantees.Recording
import Sipmon.Guarantees.Shutdown
import Sipmon.Guarantees.FiledRecords
import Sipmon.Guarantees.Publication
import Sipmon.Source.ReplaySession
import Sipmon.Guarantees.ToldEvents
import Sipmon.Guarantees.Retelling
import Sipmon.Guarantees.ReplayReport
import Sipmon.Guarantees.ReplayRun
import Sipmon.Guarantees.LiveRuns
import Sipmon.Guarantees.LogFindings
import Sipmon.Guarantees.ReplayFindings
import Sipmon.Guarantees.StreamMoves
import Sipmon.Guarantees.MediaTails
import Sipmon.Guarantees.ReplayProgress
