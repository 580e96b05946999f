import Meshtastic.Lib.Bytes
import Meshtastic.Lib.Run
import Meshtastic.Core
import Meshtastic.Channels
import Meshtastic.ChannelsCoherence
import Meshtastic.ConfigStore
import Meshtastic.ConfigStoreReplay
import Meshtastic.Lib.Protobuf
import Meshtastic.Packet
import Meshtastic.PacketRoundTrip
import Meshtastic.DataCodec
import Meshtastic.Lib.History
import Meshtastic.Reliable
import Meshtastic.Tracker
import Meshtastic.TrackerRetry
import Meshtastic.SendRace
import Meshtastic.TrackerOutcome
import Meshtastic.Node
import Meshtastic.NodeChange
import Meshtastic.NodeRules
import Meshtastic.TrackedOrigin
import Meshtastic.NonceUnique
import Meshtastic.Frames
import Meshtastic.Network
import Meshtastic.NetworkAck
import Meshtastic.DupWindow
import Meshtastic.RelayPolicy
import Meshtastic.Flood
import Meshtastic.AckChains
import Meshtastic.Mqtt
import Meshtastic.MqttBridge
import Meshtastic.MqttUplink
import Meshtastic.MqttChannels
import Meshtastic.PhoneData
import Meshtastic.Lib.Deque
import Meshtastic.PhoneApi
import Meshtastic.PhoneQueue
import Meshtastic.PhoneHandshake
import Meshtastic.Lib.Framing
import Meshtastic.Serial
import Meshtastic.BleFromRadio
import Meshtastic.BleToRadio
import Meshtastic.Outbound
import Meshtastic.ChannelRoles
import Meshtastic.OwnTraffic
import Meshtastic.ModuleHandlers
import Meshtastic.Reactions
import Meshtastic.StoreRecords
import Meshtastic.StoreValidity
import Meshtastic.StoreExport
import Meshtastic.Lib.Scan
import Meshtastic.NodeDb
import Meshtastic.NodeDbHistory
import Meshtastic.KeyLookup
import Meshtastic.SendChannel
import Meshtastic.RetryTimer
import Meshtastic.AckHops
import Meshtastic.InjectRetry
import Meshtastic.SerialTransmit
import Meshtastic.ChannelKey
import Meshtastic.ConfigInit
import Meshtastic.Lib.Recency
import Meshtastic.NodeinfoLimits
import Meshtastic.ReplyBudget
import Meshtastic.MqttQueue
import Meshtastic.LocalUplink
import Meshtastic.Lib.Window
import Meshtastic.Airtime
import Meshtastic.Lib.Counter
import Meshtastic.PacketIds
import Meshtastic.Lib.Exclusion
import Meshtastic.Radio
import Meshtastic.RadioFrames
import Meshtastic.Lib.WriteBack
import Meshtastic.SettingsSave
import Meshtastic.Lib.Spacing
import Meshtastic.Gnss
import Meshtastic.Lib.Grid
import Meshtastic.MapReport
import Meshtastic.Lib.TopicFilter
import Meshtastic.MqttSession
import Meshtastic.RelayLimit
import Meshtastic.MultiHop
import Meshtastic.Lib.Numeral
import Meshtastic.ShellWords
import Meshtastic.ShellConfig
import Meshtastic.ShellCopy
import Meshtastic.ShellSend
import Meshtastic.ShellSettings
import Meshtastic.PhoneClients
import Meshtastic.ShellNodes
