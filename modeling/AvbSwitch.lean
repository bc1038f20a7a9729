import AvbSwitch.Runs
import AvbSwitch.Octets
import AvbSwitch.Packed
import AvbSwitch.MrpTables
import AvbSwitch.MrpReference
import AvbSwitch.PduLayout
import AvbSwitch.PduReadBack
import AvbSwitch.ReceiveLoops
import AvbSwitch.PduRoundTrip
import AvbSwitch.MsrpState
import AvbSwitch.MsrpMad
import AvbSwitch.MsrpFrames
import AvbSwitch.LeavePropagation
import AvbSwitch.TalkerReservation
import AvbSwitch.DeclarationUniqueness
import AvbSwitch.MsrpService
import AvbSwitch.MsrpReceive
import AvbSwitch.ReceivedValues
import AvbSwitch.DeliveredValues
import AvbSwitch.TimerHistory
import AvbSwitch.TimerRuns
import AvbSwitch.FirstMinimum
import AvbSwitch.OctetOrder
import AvbSwitch.PriorityVectors
import AvbSwitch.GptpState
import AvbSwitch.PortAnnounce
import AvbSwitch.RoleSelection
import AvbSwitch.GptpRuns
import AvbSwitch.BestMaster
import AvbSwitch.MsrpInit
import AvbSwitch.PdelayState
import AvbSwitch.PdelayMachine
import AvbSwitch.PdelaySteps
import AvbSwitch.PdelayTermination
import AvbSwitch.FrameFields
import AvbSwitch.PdelayMatching
import AvbSwitch.PdelayExchange
import AvbSwitch.SelectedMaster
import AvbSwitch.AnnounceFrame
import AvbSwitch.PathTrace
import AvbSwitch.AnnounceEncoding
import AvbSwitch.TimeRelay
import AvbSwitch.SyncMachine
import AvbSwitch.SyncPairing
import AvbSwitch.AnnounceSettling
import AvbSwitch.LinkedSystems
import AvbSwitch.MasterInformation
import AvbSwitch.GptpTick
import AvbSwitch.AnnounceWindow
import AvbSwitch.InformationAgeing
import AvbSwitch.FollowUpRelay
import AvbSwitch.GrandmasterTime
import AvbSwitch.Limbs
import AvbSwitch.LocalContents
import AvbSwitch.EmulatedArithmetic
import AvbSwitch.TimestampArithmetic
import AvbSwitch.MeasuredDelay
import AvbSwitch.ReservationTable
import AvbSwitch.JoinPropagation
import AvbSwitch.EventDelivery
import AvbSwitch.JoinTimer
import AvbSwitch.JoinTimerRuns
import AvbSwitch.FullPdu
import AvbSwitch.TalkerMerge
import AvbSwitch.TalkerRelay
import AvbSwitch.ReceiveReads
import AvbSwitch.EmulatedDivision
import AvbSwitch.RateRatio
import AvbSwitch.RateRatioRuns
import AvbSwitch.FirstFit
import AvbSwitch.MsrpPools
import AvbSwitch.EventFrames
import AvbSwitch.LeaveallTransmission
import AvbSwitch.SelectionResult
import AvbSwitch.AnnounceMinimum
import AvbSwitch.PdelayResponder
import AvbSwitch.PdelayHistory
import AvbSwitch.ResponseShutdown
import AvbSwitch.LostResponses
import AvbSwitch.SignaledIntervals
import AvbSwitch.FrameDispatch
import AvbSwitch.TransmitPacing
import AvbSwitch.Int64Arithmetic
import AvbSwitch.SignedArithmetic
import AvbSwitch.EmulatedProducts
import AvbSwitch.SignedDivision
import AvbSwitch.TimestampSums
import AvbSwitch.FixedPointRatio
import AvbSwitch.RateNormalisation
import AvbSwitch.RtcFraction
import AvbSwitch.ServoStep
import AvbSwitch.ServoIntegral
import AvbSwitch.Loops
import AvbSwitch.MemoryMoves
import AvbSwitch.AttributeRelay
import AvbSwitch.MsrpCalls
import AvbSwitch.RegistrationRelay
import AvbSwitch.StreamCapacity
import AvbSwitch.GptpBridge
import AvbSwitch.DormantPorts
import AvbSwitch.AnnounceTimeout
import AvbSwitch.Networks
import AvbSwitch.AnnounceNetwork
import AvbSwitch.Hysteresis
import AvbSwitch.RtcClock
import AvbSwitch.ClockController
import AvbSwitch.GrandmasterReport
import AvbSwitch.SyncNetwork
