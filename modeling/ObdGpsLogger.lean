import ObdGpsLogger.CLib.Text
import ObdGpsLogger.CLib.Scanf
import ObdGpsLogger.CLib.ScanInt
import ObdGpsLogger.CLib.Arith
import ObdGpsLogger.CLib.Buffer
import ObdGpsLogger.CLib.Cells
import ObdGpsLogger.Machine.Run
import ObdGpsLogger.Sql.Statement
import ObdGpsLogger.Sql.Table
import ObdGpsLogger.Sql.Keeps
import ObdGpsLogger.Sql.Transaction
import ObdGpsLogger.Sql.Quoted
import ObdGpsLogger.Sql.Expression
import ObdGpsLogger.Xml.Forest
import ObdGpsLogger.Stat.Weighted
import ObdGpsLogger.Obdinfo.ServiceCommands
import ObdGpsLogger.Obdinfo.Convert
import ObdGpsLogger.Obdinfo.ConvertRange
import ObdGpsLogger.Obdinfo.DtcCodes
import ObdGpsLogger.Obdinfo.PidFinder
import ObdGpsLogger.Obdcomm.ObdSerial
import ObdGpsLogger.Obdcomm.ReplyLoop
import ObdGpsLogger.Obdcomm.ObdValue
import ObdGpsLogger.Obdcomm.SupportedCommands
import ObdGpsLogger.Obdcomm.UpgradeBaud
import ObdGpsLogger.Obdcomm.PrintCapabilities
import ObdGpsLogger.Obdcomm.WaitAnswer
import ObdGpsLogger.Conf.ObdConfigFile
import ObdGpsLogger.Conf.LoadConfig
import ObdGpsLogger.Conf.ConfigCmds
import ObdGpsLogger.Sim.FdSimPort
import ObdGpsLogger.Sim.FdSimPortInv
import ObdGpsLogger.Sim.Isolation
import ObdGpsLogger.Sim.Framing
import ObdGpsLogger.Sim.Settings
import ObdGpsLogger.Sim.EcuDelay
import ObdGpsLogger.Sim.MainLoop
import ObdGpsLogger.Sim.EcuTimeout
import ObdGpsLogger.Sim.ParseATcmd
import ObdGpsLogger.Sim.OnePrompt
import ObdGpsLogger.Sim.AtSettings
import ObdGpsLogger.Sim.ProtocolSelect
import ObdGpsLogger.Sim.Session
import ObdGpsLogger.Sim.Generator
import ObdGpsLogger.Sim.GenCycle
import ObdGpsLogger.Sim.SupportedPids
import ObdGpsLogger.Sim.GenLogger
import ObdGpsLogger.Sim.LogReplay
import ObdGpsLogger.Sim.LogRows
import ObdGpsLogger.Sim.GenGuiFltk
import ObdGpsLogger.Sim.GenDbus
import ObdGpsLogger.Sim.DbusValues
import ObdGpsLogger.Sim.Adapter
import ObdGpsLogger.Sim.Advertised
import ObdGpsLogger.Sim.GenSocket
import ObdGpsLogger.Sim.FreezeFrame
import ObdGpsLogger.Sim.EcuOptions
import ObdGpsLogger.Wire.Reply
import ObdGpsLogger.Wire.MultiLine
import ObdGpsLogger.Wire.RoundTrip
import ObdGpsLogger.Wire.Sensors
import ObdGpsLogger.Wire.Rerecord
import ObdGpsLogger.Wire.DriveExported
import ObdGpsLogger.Wire.Capabilities
import ObdGpsLogger.Wire.TroubleCodes
import ObdGpsLogger.Wire.Conversation
import ObdGpsLogger.Wire.DisplayedCodes
import ObdGpsLogger.Wire.ErrorCodes
import ObdGpsLogger.Wire.FrameReadBack
import ObdGpsLogger.Logger.TripDb
import ObdGpsLogger.Logger.MainLoop
import ObdGpsLogger.Logger.ObdDb
import ObdGpsLogger.Logger.Trips
import ObdGpsLogger.Logger.Finished
import ObdGpsLogger.Logger.Samples
import ObdGpsLogger.Logger.Positions
import ObdGpsLogger.Logger.FreshSamples
import ObdGpsLogger.Logger.Transactions
import ObdGpsLogger.Logger.EcuDb
import ObdGpsLogger.Logger.LogDb
import ObdGpsLogger.Repair.ObdRepair
import ObdGpsLogger.Repair.TripEnds
import ObdGpsLogger.Repair.RepairMain
import ObdGpsLogger.Csv.ObdGpsCsv
import ObdGpsLogger.Csv.ReadBack
import ObdGpsLogger.Csv.Exported
import ObdGpsLogger.Gpx.Obd2Gpx
import ObdGpsLogger.Kml.HeightAndColor
import ObdGpsLogger.Kml.SingleHeight
import ObdGpsLogger.Analysis.ExamineTrips
import ObdGpsLogger.Analysis.AnalysisTables
import ObdGpsLogger.Analysis.BoxWhisker
import ObdGpsLogger.Analysis.FftCsv
import ObdGpsLogger.Analysis.TripDist
import ObdGpsLogger.Analysis.TripCompare
import ObdGpsLogger.Gui.LoggerHandler
