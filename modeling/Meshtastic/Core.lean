import Meshtastic.Lib.Bytes

/-! Constants, error codes, build options and message types shared by the whole stack
(`meshtastic.h`, `meshtastic_core.h`, `meshtastic_packet.h`, the nanopb messages). -/

namespace Meshtastic
open Bytes

def PKT_MAX : Nat := 255
def HDR_LEN : Nat := 16
def PAYLOAD_MAX : Nat := PKT_MAX - HDR_LEN
def MAX_PAYLOAD_LEN : Nat := 233
def MAX_TEXT_LEN : Nat := 233
abbrev MAX_CHANNELS : Nat := 8

instance : NeZero MAX_CHANNELS := ⟨by decide⟩

def NODE_BROADCAST : UInt32 := 0xFFFFFFFF
def CHANNEL_INDEX_INVALID : UInt8 := 0xFF
def INT64_MAX : Int := 2 ^ 63 - 1

def PORT_UNKNOWN : UInt32 := 0
def PORT_TEXT_MESSAGE : UInt32 := 1
def PORT_POSITION : UInt32 := 3
def PORT_NODEINFO : UInt32 := 4
def PORT_ROUTING : UInt32 := 5
def PORT_TEXT_MESSAGE_COMPRESSED : UInt32 := 7
def PORT_TELEMETRY : UInt32 := 67
def PORT_PRIVATE : UInt32 := 256

inductive Errno where
  | eio
  | eagain
  | enomem
  | ebusy
  | enodev
  | einval
  | enoent
  | enomsg
  | ebadmsg
  | enotsup
  | ealready
  | etimedout
  | ehostunreach
  deriving DecidableEq

/-- Build options, with the ranges Kconfig enforces. -/
structure Kconfig where
  dupCacheSize : Nat
  reliableMaxPending : Nat
  reliableRetransmissions : Nat
  reliableRetryIntervalMs : Nat
  reliableRetryJitterMs : Nat
  mqtt : Bool
  mqttIgnoreMqtt : Bool
  dupCacheSize_range : 4 ≤ dupCacheSize ∧ dupCacheSize ≤ 64
  reliableMaxPending_range : 1 ≤ reliableMaxPending ∧ reliableMaxPending ≤ 16
  reliableRetransmissions_range : reliableRetransmissions ≤ 8
  reliableRetryIntervalMs_range : 1000 ≤ reliableRetryIntervalMs ∧ reliableRetryIntervalMs ≤ 120000
  reliableRetryJitterMs_range : reliableRetryJitterMs ≤ 30000

structure Packet where
  from_ : UInt32 := 0
  to_ : UInt32 := 0
  id : UInt32 := 0
  portnum : UInt32 := 0
  payload : Octets := []
  dataDest : UInt32 := 0
  dataSource : UInt32 := 0
  requestId : UInt32 := 0
  replyId : UInt32 := 0
  hopLimit : UInt8 := 0
  hopStart : UInt8 := 0
  channel : UInt8 := 0
  channelIndex : UInt8 := 0
  nextHop : UInt8 := 0
  relayNode : UInt8 := 0
  wantAck : Bool := false
  viaMqtt : Bool := false
  wantResponse : Bool := false
  rssi : Int := 0
  snr : Int := 0
  deriving DecidableEq

structure Data where
  portnum : UInt32 := 0
  payload : Octets := []
  wantResponse : Bool := false
  dest : UInt32 := 0
  source : UInt32 := 0
  requestId : UInt32 := 0
  replyId : UInt32 := 0
  emoji : UInt32 := 0
  bitfield : Option UInt8 := none
  deriving DecidableEq

/-- The payload union of `meshtastic_MeshPacket`. When the variant tag is unset the
encrypted view of the union may still hold bytes. -/
inductive PayloadVariant where
  | decoded (data : Data)
  | encrypted (bytes : Octets)
  | unset (bytes : Octets)
  deriving DecidableEq

/-- `meshtastic_MeshPacket`, as far as the stack reads it. -/
structure MeshPacket where
  from_ : UInt32 := 0
  to_ : UInt32 := 0
  channel : UInt8 := 0
  payload : PayloadVariant := .unset []
  id : UInt32 := 0
  hopLimit : UInt8 := 0
  hopStart : UInt8 := 0
  wantAck : Bool := false
  viaMqtt : Bool := false
  nextHop : UInt8 := 0
  relayNode : UInt8 := 0
  deriving DecidableEq

/-- `meshtastic_Routing`: the error reason, or one of the route discovery variants. -/
inductive Routing where
  | errorReason (value : Nat)
  | other
  deriving DecidableEq

inductive EventType where
  | packetReceived
  | textMessage
  | txDone
  | txFailed
  | txAcked
  | txNoAck
  deriving DecidableEq

/-- `DeviceConfig.Role`; protobuf enumerations are open, so any other value can occur. -/
inductive DeviceRole where
  | client
  | clientMute
  | router
  | routerClient
  | repeater
  | tracker
  | sensor
  | tak
  | clientHidden
  | lostAndFound
  | takTracker
  | routerLate
  | clientBase
  | unrecognized (beyond : Nat)
  deriving DecidableEq

def DeviceRole.toNat : DeviceRole → Nat
  | client => 0
  | clientMute => 1
  | router => 2
  | routerClient => 3
  | repeater => 4
  | tracker => 5
  | sensor => 6
  | tak => 7
  | clientHidden => 8
  | lostAndFound => 9
  | takTracker => 10
  | routerLate => 11
  | clientBase => 12
  | unrecognized beyond => 13 + beyond

inductive RebroadcastMode where
  | all
  | allSkipDecoding
  | localOnly
  | knownOnly
  | none
  | corePortnumsOnly
  | unrecognized (beyond : Nat)
  deriving DecidableEq

def RebroadcastMode.toNat : RebroadcastMode → Nat
  | all => 0
  | allSkipDecoding => 1
  | localOnly => 2
  | knownOnly => 3
  | none => 4
  | corePortnumsOnly => 5
  | unrecognized beyond => 6 + beyond

/-! ## Values for examples -/

theorem leastCapacity_range : 4 ≤ 4 ∧ 4 ≤ 64 := by decide

def smallKconfig : Kconfig where
  dupCacheSize := 4
  reliableMaxPending := 2
  reliableRetransmissions := 1
  reliableRetryIntervalMs := 1000
  reliableRetryJitterMs := 0
  mqtt := true
  mqttIgnoreMqtt := false
  dupCacheSize_range := leastCapacity_range
  reliableMaxPending_range := by decide
  reliableRetransmissions_range := by decide
  reliableRetryIntervalMs_range := by decide
  reliableRetryJitterMs_range := by decide

def greeting : Packet :=
  { from_ := 0x11, to_ := 0x22, id := 7, portnum := PORT_TEXT_MESSAGE, payload := [0x68, 0x69],
    hopLimit := 3, hopStart := 3, wantAck := true }

end Meshtastic
