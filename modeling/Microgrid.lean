import Microgrid.Foundation.PenaltyWindows
import Microgrid.Foundation.OrderStatistics
import Microgrid.Foundation.KeyedLogs
import Microgrid.Foundation.SymbolicKnowledge
import Microgrid.Foundation.Processes
import Microgrid.Foundation.CentroidMotion
import Microgrid.Foundation.CrashPrograms
import Microgrid.Foundation.Simulations
import Microgrid.Foundation.RepetitionCode
import Microgrid.Foundation.KeyDerivation
import Microgrid.Wire.HexText
import Microgrid.Wire.JsonText
import Microgrid.Wire.Framing
import Microgrid.Wire.FrameStream
import Microgrid.Handshake.Suite
import Microgrid.Handshake.RotSession
import Microgrid.Handshake.DeviceSession
import Microgrid.Handshake.Interoperation
import Microgrid.Handshake.SessionRuns
import Microgrid.Handshake.HostileInput
import Microgrid.Handshake.DataChannel
import Microgrid.Handshake.DataPayload
import Microgrid.Handshake.WholeSession
import Microgrid.Handshake.HexDecoding
import Microgrid.Handshake.SymbolicNetwork
import Microgrid.Handshake.NetworkInvariant
import Microgrid.Handshake.HonestExchange
import Microgrid.Handshake.Agreement
import Microgrid.Handshake.DataAuthenticity
import Microgrid.Handshake.DeviceSecrecy
import Microgrid.Handshake.Transcripts
import Microgrid.Ems.RuleCoverage
import Microgrid.Ems.TrustCaps
import Microgrid.Ems.OutputHeights
import Microgrid.Ems.SetpointTorque
import Microgrid.Ems.SetpointPivots
import Microgrid.Ems.UnderVoltage
import Microgrid.Ems.OverVoltage
import Microgrid.Ems.RisingSetpoint
import Microgrid.Ems.TrustMonotonicity
import Microgrid.Ems.VoltageSign
import Microgrid.Ems.UntrustedSetpoint
import Microgrid.Ems.CrossNodeMedian
import Microgrid.Ems.NodeLogs
import Microgrid.Ems.StoreReports
import Microgrid.Ems.SetpointBoard
import Microgrid.SecureNode.PoisonedReadings
import Microgrid.SecureNode.ServerRuns
import Microgrid.SecureNode.TrustPropagation
import Microgrid.SecureNode.ActiveNodes
import Microgrid.SecureNode.TrustMachine
import Microgrid.SecureNode.FailedReadings
import Microgrid.SecureNode.AuditChain
import Microgrid.SecureNode.MalformedReadings
import Microgrid.SecureNode.SessionProtocol
import Microgrid.SecureNode.SymbolicSession
import Microgrid.SecureNode.ChainOrder
import Microgrid.SecureNode.SessionExposure
import Microgrid.SecureNode.Protocol
import Microgrid.SecureNode.SessionSetup
import Microgrid.SecureNode.Conversation
import Microgrid.SecureNode.Logout
import Microgrid.SecureNode.ClientRuns
import Microgrid.SecureNode.ServerThreads
import Microgrid.SecureNode.ThreadInvariants
import Microgrid.SecureNode.SessionMetrics
import Microgrid.SecureNode.TlvInverse
import Microgrid.SecureNode.MessageCodec
import Microgrid.SecureNode.HkdfCopies
import Microgrid.Fleet.RegisterPufNode
import Microgrid.Fleet.ProvisionServerRef
import Microgrid.Fleet.ServerReference
import Microgrid.Fleet.WifiStation
import Microgrid.Fleet.WifiEvents
import Microgrid.Puf.BitArray
import Microgrid.Puf.Ecc
import Microgrid.Puf.BitBuffers
import Microgrid.Puf.Puflib
import Microgrid.Puf.RotIdentity
import Microgrid.Puf.AppMain
import Microgrid.Puf.Provisioning
import Microgrid.Puf.EnrollmentRuns
import Microgrid.Puf.CounterErasure
import Microgrid.Puf.Reconstruction
import Microgrid.Puf.ResponseLifetime
import Microgrid.Puf.StableIdentity
import Microgrid.Puf.HelperBinding
import Microgrid.Puf.IdleEnrollment
import Microgrid.Puf.EnrollmentOutcome
import Microgrid.Puf.Tolerance
import Microgrid.Puf.DerivedKeys
import Microgrid.Puf.HiddenResponse
import Microgrid.Fleet.Onboarding
