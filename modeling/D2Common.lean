import D2Common.Foundations.History
import D2Common.Foundations.Transducer
import D2Common.Foundations.Search
import D2Common.Foundations.Slots
import D2Common.Foundations.Lookups
import D2Common.Foundations.Lease
import D2Common.Foundations.Known
import D2Common.Foundations.Chain
import D2Common.Foundations.Custody
import D2Common.Foundations.Writes
import D2Common.Foundations.FixedPoint
import D2Common.Foundations.Checked
import D2Common.Foundations.Rows
import D2Common.Foundations.Parts
import D2Common.Foundations.Mailbox
import D2Common.Foundations.Monitor
import D2Common.Agps.Types
import D2Common.Agps.Subscriber
import D2Common.Agps.StateMachine
import D2Common.Agps.Roster
import D2Common.Agps.Transitions
import D2Common.Agps.Store
import D2Common.Agps.Machine
import D2Common.Agps.Emitted
import D2Common.Agps.Identity
import D2Common.Agps.Plain
import D2Common.Agps.Upkeep
import D2Common.Agps.Plain.Occupancy
import D2Common.Agps.Plain.Connection
import D2Common.Agps.Plain.Notices
import D2Common.Agps.DataServices
import D2Common.Agps.DataServices.Pending
import D2Common.Agps.Subscription
import D2Common.Agps.Plain.Clients
import D2Common.Agps.EngineUp
import D2Common.Agps.DataServices.Answers
import D2Common.Agps.SuplEs
import D2Common.Agps.SuplEs.Answers
import D2Common.Agps.Nifs
import D2Common.Agps.Nifs.Closing
import D2Common.Agps.Nifs.Releases
import D2Common.Agps.Nifs.Pairs
import D2Common.Agps.Nifs.Retries
import D2Common.Agps.Nifs.Members
import D2Common.Agps.Nifs.Ledger
import D2Common.Agps.Nifs.Apn
import D2Common.Agps.Nifs.Calls
import D2Common.Agps.Nifs.Released
import D2Common.Ni.Handlers
import D2Common.Ni.Runs
import D2Common.Ni.Answerable
import D2Common.Ni.Answers
import D2Common.Ni.Cancelled
import D2Common.Ni.Ownership
import D2Common.Cfg.Params
import D2Common.Cfg.ReadConf
import D2Common.Cfg.Validity
import D2Common.Eng.Adapter
import D2Common.Eng.Server
import D2Common.Eng.Engine
import D2Common.Eng.Rules
import D2Common.Eng.Outputs
import D2Common.Eng.Muting
import D2Common.Eng.Restart
import D2Common.Eng.ServerSettings
import D2Common.Eng.AidingData
import D2Common.Eng.SessionCalls
import D2Common.DmnConn.GlueMsg
import D2Common.DmnConn.Handler
import D2Common.DmnConn.ServerProc
import D2Common.DmnConn.Framing
import D2Common.DmnConn.RoundTrip
import D2Common.DmnConn.ServerLoop
import D2Common.DmnConn.ThreadHelper
import D2Common.Utils.LocTimer
import D2Common.Utils.LocTimer.Deadline
import D2Common.Utils.MiscUtils
import D2Common.Eng.XtraServer
import D2Common.Utils.LocCfg
import D2Common.Utils.LocCfg.Parameters
import D2Common.Utils.LocCfg.Buffers
import D2Common.Utils.LocCfg.Exits
import D2Common.Utils.LocCfg.Comments
import D2Common.Utils.LocCfg.Assignments
import D2Common.Utils.LocCfg.Strings
import D2Common.Utils.LinkedList
import D2Common.Utils.LinkedList.Sequence
import D2Common.Utils.LinkedList.Represents
import D2Common.Utils.LinkedList.Operations
import D2Common.Utils.LinkedList.Refinement
import D2Common.Utils.LinkedList.Searching
import D2Common.Utils.MsgQ
import D2Common.Utils.MsgQ.ExactlyOnce
import D2Common.Core.LocApiBase
import D2Common.Core.LocApiBase.Strings
import D2Common.Core.MsgTask
import D2Common.Core.MsgTask.Served
import D2Common.Core.LocApiBase.Opening
import D2Common.Core.LocApiBase.Delivery
import D2Common.Eng.OnTask
import D2Common.Eng.Reopening
import D2Common.Eng.UlpProxy
import D2Common.Eng.Intent
import D2Common.Eng.Intent.Runs
import D2Common.Nmea.Format
import D2Common.Nmea.Fields
import D2Common.Nmea.Checksum
import D2Common.Nmea.Layout
import D2Common.Nmea.Sentences
import D2Common.Nmea.SatellitesInView
import D2Common.Nmea.UsedMask
import D2Common.Nmea.Position
import D2Common.Nmea.Freshness
import D2Common.Nmea.ExactFields
import D2Common.Nmea.SessionMode
import D2Common.Ril.Java
import D2Common.Ril.Operators
import D2Common.Ril.Solicited
import D2Common.Ril.Replies
import D2Common.Ril.Parcels
import D2Common.Ril.CallList
import D2Common.Ril.IccCard
import D2Common.Ril.OperatorInfos
import D2Common.Agps.Nifs.Askers
import D2Common.DmnConn.Service
import D2Common.DmnConn.Answers
import D2Common.DmnConn.Shutdown
