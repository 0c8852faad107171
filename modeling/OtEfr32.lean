import OtEfr32.Transition.Runs
import OtEfr32.Transition.Indexed
import OtEfr32.Transition.Loop
import OtEfr32.Transition.Recording
import OtEfr32.Transition.Simulation
import OtEfr32.Transition.Relation
import OtEfr32.Transition.Explained
import OtEfr32.Data.KeyRange
import OtEfr32.Data.WideClock
import OtEfr32.Data.CyclicSlots
import OtEfr32.Data.Ring
import OtEfr32.Data.Ledger
import OtEfr32.Data.Stamps
import OtEfr32.Data.SlotTable
import OtEfr32.Data.Memory
import OtEfr32.Data.Numbering
import OtEfr32.Data.Handles
import OtEfr32.Data.BlockPool
import OtEfr32.Data.CString
import OtEfr32.Data.InTurn
import OtEfr32.Platform.Error
import OtEfr32.Alarm.Handle
import OtEfr32.Alarm.RunningFlag
import OtEfr32.Alarm.Segments
import OtEfr32.Alarm.Deadline
import OtEfr32.Alarm.SegmentSum
import OtEfr32.Alarm.Process
import OtEfr32.Alarm.Delivery
import OtEfr32.Alarm.TimeGet
import OtEfr32.Settings.Flash
import OtEfr32.Settings.Search
import OtEfr32.Settings.IndexedList
import OtEfr32.Settings.Refinement
import OtEfr32.Settings.Write
import OtEfr32.Settings.Frame
import OtEfr32.Settings.Isolation
import OtEfr32.Settings.FreeSlot
import OtEfr32.Settings.Atomicity
import OtEfr32.Settings.Wipe
import OtEfr32.Uart.Receive
import OtEfr32.Uart.Stream
import OtEfr32.Uart.Delivery
import OtEfr32.Uart.Overflow
import OtEfr32.Uart.Iostream
import OtEfr32.Uart.Transmit
import OtEfr32.Uart.SendLaw
import OtEfr32.Radio.Config
import OtEfr32.Radio.Flags
import OtEfr32.Radio.Frame
import OtEfr32.Radio.EnergyScan
import OtEfr32.Radio.PowerManager
import OtEfr32.Radio.Security
import OtEfr32.Radio.SourceMatch
import OtEfr32.Radio.SourceMatchRuns
import OtEfr32.Radio.ShortMatch
import OtEfr32.Radio.ExtMatch
import OtEfr32.Radio.Acknowledgment
import OtEfr32.Radio.Transmitter
import OtEfr32.Radio.Receiver
import OtEfr32.Radio.Driver
import OtEfr32.Radio.Steps
import OtEfr32.Radio.TxPhase
import OtEfr32.Radio.TxPriority
import OtEfr32.Radio.TxCompletion
import OtEfr32.Radio.ScheduleView
import OtEfr32.Radio.ScheduledTx
import OtEfr32.Radio.AckedReception
import OtEfr32.Radio.ReceptionSteps
import OtEfr32.Radio.HandoffHistory
import OtEfr32.Radio.FaithfulFrames
import OtEfr32.Radio.AckMetadata
import OtEfr32.Radio.ScanLaw
import OtEfr32.Radio.ScanLength
import OtEfr32.Radio.Requests
import OtEfr32.Radio.RequestPlaces
import OtEfr32.Radio.Conservation
import OtEfr32.Radio.PendingOrder
import OtEfr32.Radio.Overtaking
import OtEfr32.Radio.OneRequest
import OtEfr32.Transition.Turns
import OtEfr32.Radio.WorkLeft
import OtEfr32.Radio.Progress
import OtEfr32.Radio.PowerLimit
import OtEfr32.Radio.Reception
import OtEfr32.Radio.FrameCounters
import OtEfr32.Radio.NonceUniqueness
import OtEfr32.Radio.RxTimestamp
import OtEfr32.Radio.RxPortions
import OtEfr32.Radio.RxBufferPool
import OtEfr32.Radio.CslPhase
import OtEfr32.Radio.KeyInstallation
import OtEfr32.Radio.AckKeyChoice
import OtEfr32.Radio.AckInterface
import OtEfr32.Crypto.CbcMac
import OtEfr32.Crypto.CounterMode
import OtEfr32.Crypto.Ccm
import OtEfr32.Psa.Library
import OtEfr32.Psa.Crypto
import OtEfr32.Psa.KeyConservation
import OtEfr32.Packet.TxSecurityProcessing
import OtEfr32.Packet.CcmBlocks
import OtEfr32.Packet.AesCcm
import OtEfr32.Packet.HardwarePaths
import OtEfr32.GreenPower.Interface
import OtEfr32.GreenPower.GpDriver
import OtEfr32.GreenPower.Slot
import OtEfr32.GreenPower.Conservation
import OtEfr32.GreenPower.FrameSteps
import OtEfr32.GreenPower.ResponseWindow
import OtEfr32.System.SignalPending
import OtEfr32.System.Drivers
import OtEfr32.System.WakeUp
import OtEfr32.System.PendingTime
import OtEfr32.Coex.Counter
import OtEfr32.Coex.Accounting
import OtEfr32.Coex.RequestToGrant
import OtEfr32.Coex.Independence
import OtEfr32.Spi.Driver
import OtEfr32.Spi.TransactionLength
import OtEfr32.Spi.PrepareAtomic
import OtEfr32.Radio.AckIeData
import OtEfr32.Data.Reads
import OtEfr32.GreenPower.FrameBounds
import OtEfr32.Radio.ChannelSwitching
import OtEfr32.Radio.TransmitPath
import OtEfr32.Radio.CoexTransmit
import OtEfr32.Radio.StackSession
import OtEfr32.Radio.DebugCounters
import OtEfr32.Settings.Bags
import OtEfr32.Crypto.CcmOpening
import OtEfr32.Packet.Unsecuring
import OtEfr32.Radio.PhyHeader
import OtEfr32.SleepyDemo.Devices
import OtEfr32.SleepyDemo.Network
import OtEfr32.SleepyDemo.Causes
import OtEfr32.SleepyDemo.Accounts
import OtEfr32.Spi.Processing
