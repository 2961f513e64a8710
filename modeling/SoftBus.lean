import SoftBus.AuthConnect
import SoftBus.AuthDeviceInfo
import SoftBus.AuthIdentity
import SoftBus.AuthIsolation
import SoftBus.AuthManagers
import SoftBus.AuthTcp
import SoftBus.BleReferenceSound
import SoftBus.BrAckWindowSound
import SoftBus.BrManagerSound
import SoftBus.BrReferenceSound
import SoftBus.ChannelList
import SoftBus.ConnFramingSound
import SoftBus.DFileHeaderLoop
import SoftBus.DFileHeaderSound
import SoftBus.DFileProgress
import SoftBus.DFileRst
import SoftBus.DFileSetting
import SoftBus.DFileTcpFrame
import SoftBus.DFileTcpSendSound
import SoftBus.DFileTransDone
import SoftBus.DFileTransId
import SoftBus.DiscBleFilter
import SoftBus.DiscBleRecv
import SoftBus.DiscBleRegister
import SoftBus.DiscBleRoundTrip
import SoftBus.DiscManager
import SoftBus.DiscRegistry
import SoftBus.FileList
import SoftBus.FilePlacement
import SoftBus.FileRetrans
import SoftBus.FillpDelayNack
import SoftBus.GattMtu
import SoftBus.HeartbeatGear
import SoftBus.InfoContainer
import SoftBus.LaneDetect
import SoftBus.LaneModel
import SoftBus.LanePending
import SoftBus.LaneRef
import SoftBus.LaneReliability
import SoftBus.LaneRetry
import SoftBus.LaneSelect
import SoftBus.Lib.Buckets
import SoftBus.LinkManagerLive
import SoftBus.LnnMap
import SoftBus.LooperSound
import SoftBus.NetDisconnect
import SoftBus.NetLedgerSound
import SoftBus.PendingPktSound
import SoftBus.ProxyRoundTrip
import SoftBus.RecipientRefSound
import SoftBus.SeqVerifyWindow
import SoftBus.SessionKey
import SoftBus.StateMachine
import SoftBus.StreamBounds
import SoftBus.SyncChannel
import SoftBus.TcpDirectSound
import SoftBus.TdcServerSound
