import ModbusRTU.Interaction.CallProgram
import ModbusRTU.Interaction.TraceLaw
import ModbusRTU.Loggers.LoggerRuns
import ModbusRTU.Loggers.CallResources
import ModbusRTU.Loggers.PassCalls
import ModbusRTU.Loggers.SettledRuns
import ModbusRTU.Loggers.RowStatements
import ModbusRTU.Loggers.RunReports
import ModbusRTU.Loggers.HeldInRuns
import ModbusRTU.Loggers.LoggerArguments
import ModbusRTU.Storage.RingWindow
import ModbusRTU.Vcom.PortBuffers
import ModbusRTU.Storage.WireWords
import ModbusRTU.Vcom.Packets
import ModbusRTU.Interaction.WorldLogic
import ModbusRTU.Vcom.DaemonCalls
import ModbusRTU.Vcom.DaemonStates
import ModbusRTU.Vcom.DaemonLoop
import ModbusRTU.Vcom.DriverWorld
import ModbusRTU.Vcom.DaemonInvariant
import ModbusRTU.Vcom.DaemonSpecs
import ModbusRTU.Vcom.DaemonTransfers
import ModbusRTU.Vcom.DaemonRuns
import ModbusRTU.Vcom.UartCopies
import ModbusRTU.Vcom.UartPorts
import ModbusRTU.Vcom.UartRuns
import ModbusRTU.Initd.TtyConfig
import ModbusRTU.Initd.PortCommands
import ModbusRTU.Initd.SpawnTtyp
import ModbusRTU.Vcom.ServerRequests
import ModbusRTU.Vcom.ServerSession
import ModbusRTU.Vcom.SessionReceives
import ModbusRTU.Vcom.SessionRuns
import ModbusRTU.Vcom.SystemRuns
import ModbusRTU.Interaction.CallExpansion
import ModbusRTU.Vcom.ConnectCalls
import ModbusRTU.Vcom.SocketRuns
import ModbusRTU.Vcom.PollRuns
import ModbusRTU.Initd.ListedPorts
import ModbusRTU.Initd.StreamRuns
import ModbusRTU.Storage.SpanCopies
import ModbusRTU.Vcom.MonitorFile
import ModbusRTU.Vcom.MonitorRuns
