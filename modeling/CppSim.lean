import CppSim.Common.CastRange
import CppSim.Common.IntegerTokens
import CppSim.Common.VersionGrammar
import CppSim.Library.BoundedHistory
import CppSim.Library.Family
import CppSim.Library.Interpolation
import CppSim.Library.Outbox
import CppSim.Library.SlidingWindow
import CppSim.Server.Session.AllOrNothing
import CppSim.Server.Session.DeadlineChain
import CppSim.Server.Session.Ledger
import CppSim.Server.Session.RateLimit
import CppSim.Server.Session.Abandoned
import CppSim.Server.Session.Service
import CppSim.Server.Session.Upgrade
import CppSim.Server.Session.ValidTraffic
import CppSim.Server.Session.Registration
import CppSim.Server.Capacity
import CppSim.Server.CoherentLoads
import CppSim.Server.SessionMetrics
import CppSim.Server.LockOrder
import CppSim.Server.Process
import CppSim.Server.Logger
import CppSim.Server.ConfiguredLimits
import CppSim.Server.Conversation
import CppSim.Server.ClosedSessions
import CppSim.Server.LogLines
import CppSim.Server.LostRegistrations
import CppSim.Server.MetricsExport
import CppSim.Server.MetricsHistory
import CppSim.Server.TimingSummary
import CppSim.Server.IssuedIds
import CppSim.Server.ConfigClamping
import CppSim.Server.FailedLoads
import CppSim.Server.NoexceptFunctions
import CppSim.Server.HotReload
import CppSim.Server.ReloadThrottle
import CppSim.Server.ManagerCalls
import CppSim.Server.AcceptChain
import CppSim.Server.Shutdown
