import Focsq.Lib.Serial
import Focsq.Lib.Vec
import Focsq.Lib.Mealy
import Focsq.Lib.Table
import Focsq.Lib.SlidingWindow
import Focsq.Lib.Bytes
import Focsq.Lib.Fifo
import Focsq.Lib.Stripes
import Focsq.Lib.Rounds
import Focsq.Lib.Past
import Focsq.Lib.Tasks
import Focsq.Lib.Effects
import Focsq.Backend.FlowReassembler
import Focsq.Backend.ReplayWindow
import Focsq.Backend.Packet
import Focsq.Backend.Obfs
import Focsq.Backend.Session
import Focsq.Backend.FlowFrame
import Focsq.Backend.ChannelData
import Focsq.Backend.StunCodec
import Focsq.Backend.TurnMessage
import Focsq.Backend.TurnCore
import Focsq.Backend.NativeCore
import Focsq.Backend.TurnDriver
import Focsq.Backend.TurnStream
import Focsq.Backend.Dispatcher
import Focsq.Backend.Notify
import Focsq.Backend.PacketQueue
import Focsq.Backend.PacketChannel
import Focsq.Backend.StripedScheduler
import Focsq.Backend.FastPathScheduler
import Focsq.Backend.Protocol
import Focsq.Backend.Repair
import Focsq.Backend.SelectiveFec
import Focsq.Backend.PacketPool
import Focsq.Backend.UdpBatch
import Focsq.Backend.TransportWriter
import Focsq.Verif.FlowSteps
import Focsq.Verif.FlowInvariants
import Focsq.Verif.FlowTable
import Focsq.Verif.FlowTimer
import Focsq.Verif.FlowDelivery
import Focsq.Verif.ReplayWindow
import Focsq.Verif.ReplayRun
import Focsq.Verif.Packet
import Focsq.Verif.Obfs
import Focsq.Verif.Session
import Focsq.Verif.Wrap
import Focsq.Verif.RoundTrip
import Focsq.Verif.Nonces
import Focsq.Verif.ChannelData
import Focsq.Verif.FlowFrame
import Focsq.Verif.DataPath
import Focsq.Verif.TurnGate
import Focsq.Verif.StunPrefix
import Focsq.Verif.TurnIntegrity
import Focsq.Verif.StunEncoding
import Focsq.Verif.StunDecode
import Focsq.Verif.TurnRequest
import Focsq.Verif.TurnMoves
import Focsq.Verif.TurnInvariant
import Focsq.Verif.TurnRelease
import Focsq.Verif.TurnMirror
import Focsq.Verif.TurnSteady
import Focsq.Verif.TurnControls
import Focsq.Verif.TurnPoll
import Focsq.Verif.TurnTimers
import Focsq.Verif.TurnStream
import Focsq.Verif.Notify
import Focsq.Verif.PacketQueue
import Focsq.Verif.PacketChannel
import Focsq.Verif.PacketStale
import Focsq.Verif.PacketWakeup
import Focsq.Verif.FastPathScheduler
import Focsq.Verif.WorkerChanges
import Focsq.Verif.WorkerRegistry
import Focsq.Verif.Protocol
import Focsq.Verif.Repair
import Focsq.Verif.RepairSteps
import Focsq.Verif.RepairRace
import Focsq.Verif.RepairWait
import Focsq.Verif.ReaderLoop
import Focsq.Verif.FlowIsolation
import Focsq.Verif.FlowAccount
import Focsq.Verif.FlowValues
import Focsq.Verif.FlowOutput
import Focsq.Verif.FlowSequencer
import Focsq.Verif.Transports
import Focsq.Verif.FecBudget
import Focsq.Verif.UdpBatch
import Focsq.Verif.WriterSends
import Focsq.Verif.TransportWriter
import Focsq.Verif.ChannelFrames
import Focsq.Verif.ChannelBatch
import Focsq.Verif.PacketPool
import Focsq.Verif.ShutdownSteps
import Focsq.Verif.Shutdown
import Focsq.Verif.ConfigFlight
import Focsq.Verif.CredentialLeases
import Focsq.Verif.CredentialReuse
import Focsq.Verif.Groups
import Focsq.Verif.Events
import Focsq.Verif.ClientSlot
import Focsq.Verif.VkToken
import Focsq.Verif.LogWords
import Focsq.Verif.Logs
import Focsq.Verif.AutoCalls
import Focsq.Verif.ConnectService
import Focsq.Verif.ConnectTasks
import Focsq.Verif.ConnectStop
import Focsq.Verif.Captcha
import Focsq.Verif.UplinkRoutes
import Focsq.Verif.Excludes
import Focsq.Verif.RecoveryLog
import Focsq.Verif.Registration
import Focsq.Backend.Dns
import Focsq.Verif.Dns
import Focsq.Verif.TunWin
import Focsq.Verif.TunLinux
import Focsq.Verif.TunTable
import Focsq.Verif.CaptchaSlider
import Focsq.Verif.CaptchaPage
import Focsq.Verif.LogWriter
import Focsq.Verif.LogFlush
import Focsq.Lib.Reader
import Focsq.Backend.Net
import Focsq.Backend.Resolve
import Focsq.Frontend.Import
import Focsq.Verif.Net
import Focsq.Verif.Resolve
import Focsq.Verif.Import
import Focsq.Verif.Links
import Focsq.Verif.ImportText
import Focsq.Verif.Update
import Focsq.Verif.RetransmissionRun
import Focsq.Verif.TurnEndpoint
import Focsq.Verif.TurnPath
import Focsq.Verif.Downlink
import Focsq.Verif.WorkerLoop
import Focsq.Verif.Handshake
import Focsq.Verif.WriterLoop
