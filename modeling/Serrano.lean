import Serrano.Foundation.Transition
import Serrano.Foundation.Monitor
import Serrano.Utils.LinkedList
import Serrano.Agps.Subscriber
import Serrano.Agps.Laws
import Serrano.Agps.Discipline
import Serrano.Agps.Subscriptions
import Serrano.Agps.SubscriberIdentity
import Serrano.LocEng.EngineRestart
import Serrano.LocEng.SuplEsRuns
import Serrano.LocEng.AidingData
import Serrano.LocEng.MuteSession
import Serrano.LocEng.FixSession
import Serrano.Utils.LocHeapRefinement
import Serrano.Timer.Arming
import Serrano.Timer.Deadlines
import Serrano.Utils.LinkedListSequence
import Serrano.Utils.MsgQ
import Serrano.Timer.Outcomes
import Serrano.Timer.WrapperLifetime
import Serrano.LocEng.NiPayloads
import Serrano.LocEng.NiAnswers
import Serrano.Core.LocApiBase
import Serrano.LocEng.DmnConn
import Serrano.Ril.PendingRequests
import Serrano.Ril.AckRace
import Serrano.Ril.WakeLock
import Serrano.Ril.ResponseFunctions
import Serrano.Ril.LockPaths
import Serrano.Foundation.InfiniteRun
import Serrano.Ril.Timeval
import Serrano.Ril.EventLoop
import Serrano.Ril.EventLoopOrder
import Serrano.Ril.EventLoopProgress
import Serrano.Foundation.Fallible
import Serrano.Ril.Dispatch
import Serrano.Ril.RadioImpl
import Serrano.Ril.DispatchOutcome
import Serrano.Ril.NitzTime
import Serrano.Ril.NitzTimeRuns
import Serrano.Ril.SapQueue
import Serrano.Ril.SapCompletions
import Serrano.Foundation.Lifetime
import Serrano.Ril.SapService
import Serrano.Ril.SapOutcomes
import Serrano.Ril.SapStorage
import Serrano.Ril.SapAnswers
import Serrano.Utils.LocThread
import Serrano.Utils.LocThreadOwnership
import Serrano.Agps.SubscriberMemory
import Serrano.Agps.SubscriberLifetimes
import Serrano.Foundation.Overlay
import Serrano.LocEng.DmnConnHandler
import Serrano.LocEng.DmnConnReceive
import Serrano.Foundation.Record
import Serrano.Ril.RadioResponse
import Serrano.Ril.DataCallList
import Serrano.Foundation.Strtol
import Serrano.Ril.CellIdentity
import Serrano.Ril.RegistrationState
import Serrano.Ril.RegistrationCells
import Serrano.Ril.SolicitedDecoders
import Serrano.Ril.SolicitedLayouts
import Serrano.Foundation.CountedArray
import Serrano.Ril.CdmaSms
import Serrano.Ril.NitzString
import Serrano.Ril.WatchTable
import Serrano.Ril.HexPdu
import Serrano.Foundation.Assignments
import Serrano.Foundation.TextLines
import Serrano.Utils.LocCfg
import Serrano.Utils.LocCfgRead
import Serrano.Utils.LocCfgUpdate
import Serrano.Foundation.DecimalText
import Serrano.Nmea.Sentence
import Serrano.Nmea.Report
import Serrano.Nmea.SvReport
import Serrano.Nmea.SvGroups
import Serrano.Nmea.SvListing
import Serrano.Nmea.PosReport
import Serrano.Nmea.PosSentences
import Serrano.Nmea.Framing
import Serrano.Nmea.PosFields
import Serrano.Nmea.PositionAccuracy
import Serrano.Nmea.MagneticTrack
import Serrano.Foundation.Loop
import Serrano.Foundation.StringMemory
import Serrano.Utils.TrimSpace
import Serrano.Utils.SplitString
import Serrano.Foundation.BalancedShape
import Serrano.Utils.LocHeapBalance
import Serrano.Foundation.FittingPrefix
import Serrano.LocEng.XtraUserAgent
import Serrano.Foundation.PrintedNumber
import Serrano.Hidl.Light
import Serrano.Hidl.LightIndicator
import Serrano.Hidl.Power
import Serrano.Hidl.PowerRuns
import Serrano.Foundation.FixedWidth
import Serrano.Timer.StartTime
import Serrano.LocEng.ConfigurationUpdate
import Serrano.LocEng.SuplEsRetries
import Serrano.Foundation.NumberLiteral
import Serrano.Utils.LocCfgItem
import Serrano.Foundation.ConditionVariable
import Serrano.Ril.StartEventLoop
import Serrano.LocEng.DmnConnThread
import Serrano.Foundation.Replica
import Serrano.LocEng.ModemConfig
import Serrano.LocEng.ModemMirror
import Serrano.LocEng.CapabilityReport
import Serrano.Foundation.OwnedBlocks
import Serrano.Ril.RequestStorage
import Serrano.Ril.RequestMemory
import Serrano.Core.EventRegistration
import Serrano.Foundation.NumberInput
import Serrano.Hidl.LiveDisplay
import Serrano.LocEng.UlpProxy
import Serrano.LocEng.UlpHandover
import Serrano.Utils.MsgTask
import Serrano.LocEng.XtraUserAgentText
