import SerialDvdEmu.Base.Decimal
import SerialDvdEmu.Base.EventRun
import SerialDvdEmu.Base.PrefixCode
import SerialDvdEmu.Base.ShiftRegister
import SerialDvdEmu.Base.CString
import SerialDvdEmu.Base.Stretch
import SerialDvdEmu.Base.RunningTotal
import SerialDvdEmu.Base.IntCounter
import SerialDvdEmu.Base.Numeral
import SerialDvdEmu.VideoQueue
import SerialDvdEmu.VideoThread
import SerialDvdEmu.VideoPlayer
import SerialDvdEmu.VideoCatchUp
import SerialDvdEmu.VideoBacklog
import SerialDvdEmu.VictorPacket
import SerialDvdEmu.VictorChecksum
import SerialDvdEmu.Emulator
import SerialDvdEmu.VictorHandlers
import SerialDvdEmu.VictorRequests
import SerialDvdEmu.VictorCalls
import SerialDvdEmu.VictorFraming
import SerialDvdEmu.VictorOverlaps
import SerialDvdEmu.ToshibaLine
import SerialDvdEmu.ToshibaBuffer
import SerialDvdEmu.EmulatorRuns
import SerialDvdEmu.EmulatorThreads
import SerialDvdEmu.DiscFolder
import SerialDvdEmu.ToshibaSelect
import SerialDvdEmu.VictorCorruption
import SerialDvdEmu.VictorPause
import SerialDvdEmu.VictorRepeats
import SerialDvdEmu.VideoTrace
import SerialDvdEmu.VideoPlay
import SerialDvdEmu.VictorSeek
import SerialDvdEmu.JlipClient
import SerialDvdEmu.JlipSession
import SerialDvdEmu.JlipReplies
import SerialDvdEmu.JlipArguments
import SerialDvdEmu.JlipSweep
import SerialDvdEmu.Base.Relay
import SerialDvdEmu.Base.Attempt
import SerialDvdEmu.Base.Backlog
import SerialDvdEmu.SerialPort
import SerialDvdEmu.MainLoop
import SerialDvdEmu.EmulatorMain
import SerialDvdEmu.JlipLine
import SerialDvdEmu.JlipProbe
import SerialDvdEmu.Base.Client
import SerialDvdEmu.JlipCommands
import SerialDvdEmu.VideoShell
import SerialDvdEmu.VideoShellRuns
import SerialDvdEmu.JlipMain
import SerialDvdEmu.JlipBus
import SerialDvdEmu.JlipScreen
import SerialDvdEmu.ToshibaScreen
