import StTools.Lib.WhileLoop
import StTools.Lib.LabelledSystem
import StTools.Lib.Table
import StTools.Lib.RoundRobin
import StTools.Lib.QueueMap
import StTools.Lib.Framing
import StTools.Lib.RoundTrip
import StTools.Lib.LinePieces
import StTools.DiaProxy.Wire
import StTools.DiaProxy.DataModel
import StTools.DiaProxy.InputFraming
import StTools.DiaProxy.OutputStream
import StTools.DiaProxy.Transactions
import StTools.DiaProxy.ClientThread
import StTools.DiaProxy.DiaThread
import StTools.DiaProxy.ListenerThread
import StTools.DiaProxy.System
import StTools.DiaProxy.RunRule
import StTools.DiaProxy.ThreadSlots
import StTools.DiaProxy.RequestLedger
import StTools.DiaProxy.SlotLeak
import StTools.DiaProxy.SignalHandling
import StTools.DiaProxy.Avp
import StTools.DiaProxy.Cea
import StTools.DiaProxy.Capabilities
import StTools.DiaProxy.ResultCodeReport
import StTools.DiaProxy.Traffic
import StTools.DiaProxy.AnswerRouting
import StTools.DiaProxy.TableIndices
import StTools.DiaProxy.QueueCleaning
import StTools.DiaProxy.InputLoop
import StTools.DiaProxy.AvpBounds
import StTools.DiaProxy.AvpEncoding
import StTools.DiaProxy.MessageBody
import StTools.DiaProxy.Watchdog
import StTools.DiaProxy.ReportControl
import StTools.DiaProxy.ReportFiles
import StTools.DiaProxy.Redundancy
import StTools.DiaProxy.SelectSet
import StTools.DiaProxy.ThreadShutdown
import StTools.DiaProxy.ClientCounts
import StTools.DiaProxy.EndToEnd
import StTools.BuildHandler.Database
import StTools.BuildHandler.DeliveryOrder
import StTools.BuildHandler.FileSync
import StTools.BuildHandler.Purge
import StTools.BuildHandler.Baselines
import StTools.BuildHandler.UnknownBuilds
import StTools.RtcGateway.TcpHandler
import StTools.RtcGateway.Triggers
import StTools.RtcController.Handlers
import StTools.RtcController.Preemption
import StTools.RtcController.WakeUp
import StTools.RtcController.RunTraffic
import StTools.HssUtils.QLock
import StTools.HssUtils.VipParameter
import StTools.HssUtils.ParseBlock
import StTools.HssUtils.BlockContents
import StTools.HssRtc.LoadMonitor
import StTools.HssRtc.LoadSections
import StTools.HssRtc.QuitOrder
import StTools.HssRtc.SuiteOrder
import StTools.HssRtc.PauseHandshake
import StTools.HssRtc.RemoteControl
import StTools.HssRtc.Answers
import StTools.HssRtc.ErrorMonitor
import StTools.HssRtc.CapacitySearch
import StTools.HssRtc.CapacityHistory
import StTools.HssRtc.StepDown
import StTools.HssRtc.PhaseStop
import StTools.HssRtc.PhaseSteps
import StTools.HssRtc.Macros
import StTools.HssRtc.TpsCounters
import StTools.HssRtc.LatencyReports
import StTools.HssRtc.LoadShutdown
import StTools.HssRtc.ActionHandler
import StTools.HssRtc.PhaseChange
import StTools.HssRtc.DecimalTimes
import StTools.HssRtc.JunitFile
import StTools.HssRtc.TtcnMonitor
import StTools.Nlt.Relay
import StTools.Nlt.Pool
import StTools.TtcnProxy.Proxy
import StTools.ScenarioDeployGenerator.PhasePlan
import StTools.ScenarioDeployGenerator.SubscriberRanges
import StTools.ScenarioDeployGenerator.GroupExclusion
import StTools.ScenarioDeployGenerator.LineReading
import StTools.ScenarioDeployGenerator.DefineUpdates
import StTools.ScenarioDeployGenerator.OptionalFields
import StTools.RunTitansim.ProxyChain
import StTools.RunTitansim.UserParameters
import StTools.LoadLogger.Segmentation
import StTools.LoadLogger.MemoryRound
import StTools.LoadLogger.Averages
import StTools.LoadLogger.CurrentLoads
import StTools.LoadLogger.LoadReport
import StTools.LoadLogger.Functions
import StTools.LoadLogger.ConfigReader
import StTools.LoadLogger.ConfigFile
import StTools.LoadLogger.Negotiate
import StTools.LoadPlotter.Connections
import StTools.LoadPlotter.LoadRounds
import StTools.LoadPlotter.RecvLine
import StTools.LoadPlotter.LoadLines
import StTools.LoadPlotter.AddConnection
import StTools.ConKeeper.CloseRequest
import StTools.ConKeeper.Pool
import StTools.ConKeeper.Replay
import StTools.ConKeeper.Reset
import StTools.ConKeeper.FreeRecord
import StTools.ConKeeper.ControlPass
import StTools.ConKeeper.ReceiveCEA
import StTools.ConKeeper.SetDestHost
import StTools.CpsMonitor.Averages
import StTools.CpsMonitor.Scheduling
