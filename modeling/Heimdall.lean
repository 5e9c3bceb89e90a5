import Heimdall.Lib.Binary32
import Heimdall.Lib.Crc
import Heimdall.Lib.EventRun
import Heimdall.Lib.Fallible
import Heimdall.Lib.FlagStore
import Heimdall.Lib.Latch
import Heimdall.Lib.Linked
import Heimdall.Lib.Memory
import Heimdall.Lib.Schedule
import Heimdall.Lib.Serializer
import Heimdall.Lib.Toggle
import Heimdall.Lib.WrapClock
import Heimdall.Greg.Types
import Heimdall.Greg.Control
import Heimdall.Greg.States
import Heimdall.Greg.Controller
import Heimdall.Greg.Transition
import Heimdall.Greg.Checks
import Heimdall.Greg.Guards
import Heimdall.Greg.SixStates
import Heimdall.Greg.Update
import Heimdall.Greg.Events
import Heimdall.Greg.Refinement
import Heimdall.Greg.Overpressure
import Heimdall.Greg.Servo
import Heimdall.Greg.Power
import Heimdall.Greg.SoftStart
import Heimdall.Greg.IdlePower
import Heimdall.Greg.ClockShift
import Heimdall.Greg.Gains
import Heimdall.Greg.Disconnect
import Heimdall.Greg.Settling
import Heimdall.Greg.FiveStates
import Heimdall.Greg.FlagCalls
import Heimdall.Telemetry.Packets
import Heimdall.Telemetry.Commands
import Heimdall.Telemetry.Content
import Heimdall.Buck.SiC43x
import Heimdall.Buck.Restart
import Heimdall.Buck.RailVoltage
import Heimdall.Storage.SdFat
import Heimdall.Storage.Listing
import Heimdall.Storage.SdSpi
import Heimdall.Storage.SdCommand
import Heimdall.Storage.SdTransfer
import Heimdall.Storage.SdSession
import Heimdall.Storage.FsCache
import Heimdall.Storage.CacheRun
import Heimdall.Storage.FatTable
import Heimdall.Storage.FatAlloc
import Heimdall.Telemetry.Logger
import Heimdall.Board.Loop
import Heimdall.Board.EnablePin
import Heimdall.Board.PowerGood
import Heimdall.Board.LogRate
import Heimdall.Board.Packets
import Heimdall.Board.TelemetryLog
import Heimdall.Storage.FatData
import Heimdall.Storage.FatFile
import Heimdall.Storage.FatRead
import Heimdall.Storage.FatWrite
import Heimdall.Storage.FileRun
import Heimdall.Storage.PowerCut
import Heimdall.Storage.FatEntry
