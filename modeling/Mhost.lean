import Mhost.Proto.FrameStream
import Mhost.Proto.FrameBounds
import Mhost.Proto.CrcDetection
import Mhost.Link.ConSmDeadPeer
import Mhost.Link.ConSmKeepalive
import Mhost.Link.ConSmPatience
import Mhost.Link.ConSmTeardown
import Mhost.Link.ConSmReports
import Mhost.Link.ConSmReturns
import Mhost.Log.ConvertDigits
import Mhost.Log.LoggerRecord
import Mhost.Log.LogFileRolls
import Mhost.Log.AsyncStorm
import Mhost.Log.AppendAccounting
import Mhost.Log.WholeLines
import Mhost.Ota.FlasherLife
import Mhost.Ota.FlasherReports
import Mhost.Ota.FlasherSignals
import Mhost.Ota.ChildLines
import Mhost.Ota.PipeTeardown
import Mhost.Serial.TransmitStream
import Mhost.Serial.ChannelTeardown
import Mhost.App.MotionAuthority
import Mhost.App.DisableDelivery
import Mhost.App.LineFraming
import Mhost.App.FiniteSetpoints
import Mhost.App.UpgradeVerdict
import Mhost.App.UpgradeDeletion
import Mhost.App.LiveReferences
import Mhost.App.TelemetrySnapshots
import Mhost.Tools.MockBoard
import Mhost.Tools.BoardTelemetry
import Mhost.Tools.SimulatorLimits
import Mhost.Tools.SimulatorLine
import Mhost.System.DisableEndToEnd
import Mhost.System.LinkAgreement
import Mhost.System.TelemetryEndToEnd
import Mhost.System.StopEndToEnd
import Mhost.System.OpenedMidframe
