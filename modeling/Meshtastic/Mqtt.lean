import Meshtastic.DataCodec
import Meshtastic.Router

/-! The MQTT gateway of `meshtastic_mqtt.c`: what is queued for the broker of the packets a node sends
and hears, and what of the broker's messages is injected into the mesh. -/

namespace Meshtastic
open Bytes

def PORT_DETECTION_SENSOR : UInt32 := 10
def PORT_RANGE_TEST : UInt32 := 66

def MQTT_DEFAULT_BROKER : CString :=
  ⟨[0x6d, 0x71, 0x74, 0x74, 0x2e, 0x6d, 0x65, 0x73, 0x68, 0x74, 0x61, 0x73, 0x74, 0x69, 0x63, 0x2e, 0x6f, 0x72, 0x67],
    by decide⟩

def CRYPT_TOPIC_SUFFIX : Octets := [0x2f, 0x32, 0x2f, 0x65, 0x2f]

def MQTT_TOPIC_SIZE : Nat := 128
def MQTT_PREFIX_SIZE : Nat := 64

def ENCRYPTED_SIZE : Nat := 256

structure MqttConfig where
  brokerHost : CString
  root : CString
  encryptionEnabled : Bool
  uplinkEnabled : Bool
  downlinkEnabled : Bool
  publishQueueSize : Nat
  txBufferSize : Nat
  publishQueueSize_range : 4 ≤ publishQueueSize ∧ publishQueueSize ≤ 64
  txBufferSize_range : 256 ≤ txBufferSize ∧ txBufferSize ≤ 4096

/-- `meshtastic_ServiceEnvelope`; all of its fields are pointers. -/
structure ServiceEnvelope where
  packet : Option ReportedMeshPacket := none
  channelId : Option CString := none
  gatewayId : Option CString := none
  deriving DecidableEq

structure EnvelopeCodec where
  encode : ServiceEnvelope → Octets
  decode : Octets → Option ServiceEnvelope

/-! ## Names -/

def hexDigit (digit : Nat) : UInt8 :=
  if digit < 10 then UInt8.ofNat (0x30 + digit) else UInt8.ofNat (0x57 + digit)

def hexDigits (value : UInt32) : Octets :=
  [28, 24, 20, 16, 12, 8, 4, 0].map fun shift => hexDigit (value.toNat / 2 ^ shift % 16)

theorem hexDigit_ne_zero (digit : Nat) (small : digit < 16) : hexDigit digit ≠ 0 := by
  have all : ∀ digit : Fin 16, hexDigit digit.val ≠ 0 := by decide
  exact all ⟨digit, small⟩

theorem hexDigits_noNul (value : UInt32) : (0 : UInt8) ∉ hexDigits value := by
  intro present
  obtain ⟨shift, -, zero⟩ := List.mem_map.mp present
  exact hexDigit_ne_zero _ (Nat.mod_lt _ (by decide)) zero

/-- `mqtt_node_id_str`: "!%08x". -/
def mqttNodeIdStr (nodeId : UInt32) : CString :=
  ⟨0x21 :: hexDigits nodeId, by
    intro present
    rcases List.mem_cons.mp present with first | later
    · contradiction
    · exact hexDigits_noNul nodeId later⟩

example : (mqttNodeIdStr 0xdeadbeef).bytes = [0x21, 0x64, 0x65, 0x61, 0x64, 0x62, 0x65, 0x65, 0x66] := by decide

def runtimeChannelName (t : ChannelTable) : CString := channelsGetName t.channelSlots t.primaryIndex

section
variable {cfg : Kconfig} (mq : MqttConfig)

def mqttIsDefaultBroker : Bool := mq.brokerHost = MQTT_DEFAULT_BROKER

def mqttShouldSkipPortnum (portnum : UInt32) (fromUs : Bool) : Bool :=
  if fromUs ∨ mqttIsDefaultBroker mq = false then false
  else portnum = PORT_RANGE_TEST || portnum = PORT_DETECTION_SENSOR

/-- What `mqtt_build_publish_topic` prints: the prefix, the channel and the gateway. -/
def mqttBuildPublishTopic (t : ChannelTable) (nodeId : UInt32) : Octets :=
  (mq.root.truncate (MQTT_PREFIX_SIZE - 1)).bytes ++ CRYPT_TOPIC_SUFFIX ++ (runtimeChannelName t).bytes ++ [0x2f] ++
    (mqttNodeIdStr nodeId).bytes

/-! ## Uplink -/

def mqttMeshFromWire (wire : Octets) : Except Errno ReportedMeshPacket :=
  match readHeader wire with
  | none => .error .einval
  | some (hdr, enc) =>
    if enc.length > ENCRYPTED_SIZE then .error .enomem
    else .ok
      { payload := .encrypted enc
        from_ := hdr.src
        to_ := hdr.dest
        id := hdr.id
        hopLimit := hdr.flags &&& 0x07
        hopStart := (hdr.flags >>> 5) &&& 0x07
        wantAck := hdr.flags &&& 0x08 != 0
        viaMqtt := hdr.flags &&& 0x10 != 0
        channel := hdr.channel
        nextHop := hdr.nextHop
        relayNode := hdr.relayNode
        transportMechanism := .lora }

/-- The channel whose permission `mqtt_queue_uplink` asks for. -/
def mqttUplinkIndex (t : ChannelTable) (packet : Packet) : UInt8 :=
  if packet.channelIndex ≠ CHANNEL_INDEX_INVALID then packet.channelIndex else channelsPrimaryIndex t

/-- The part of `mqtt_queue_uplink` before the queue is locked: the envelope it goes on to queue. -/
def mqttUplinkEnvelope (node : Node cfg) (packet : Packet) (wire : Octets) : Option ServiceEnvelope :=
  if wire.length = 0 then none
  else if channelsUplinkEnabled node.table (mqttUplinkIndex node.table packet) = false then none
  else if packet.viaMqtt then none
  else if mqttShouldSkipPortnum mq packet.portnum (packet.from_ = node.nodeId) then none
  else if (mqttBuildPublishTopic mq node.table node.nodeId).length ≥ MQTT_TOPIC_SIZE then none
  else
    match if mq.encryptionEnabled then mqttMeshFromWire wire else packetToMeshPb packet with
    | .error _ => none
    | .ok mesh => some
      { packet := some mesh
        channelId := some (runtimeChannelName node.table)
        gatewayId := some (mqttNodeIdStr node.nodeId) }

structure MqttPubEntry where
  topic : Octets
  payload : Octets
  deriving DecidableEq

/-- A frame that was queued, with its packet and its envelope, the node as it was and the call during
which it was queued. -/
structure Uplink (cfg : Kconfig) where
  packet : Packet
  wire : Octets
  envelope : ServiceEnvelope
  node : Node cfg
  request : Request cfg

/-- A node with the queue of its MQTT thread, oldest entry first. `uplinks` lists what
`mqtt_queue_uplink` has queued since the beginning of time, newest first; the code does not keep it. -/
structure Gateway (cfg : Kconfig) where
  node : Node cfg
  queue : List MqttPubEntry
  uplinks : List (Uplink cfg)

def mqttMakeRoom (queue : List MqttPubEntry) : List MqttPubEntry :=
  if queue.length ≥ mq.publishQueueSize then queue.tail else queue

/-- `mqtt_queue_uplink`, during a call. Room is made in the queue before the envelope is encoded. -/
def mqttQueueUplink (envelopes : EnvelopeCodec) (request : Request cfg) (gateway : Gateway cfg) (packet : Packet)
    (wire : Octets) : Gateway cfg :=
  match mqttUplinkEnvelope mq gateway.node packet wire with
  | none => gateway
  | some envelope =>
    let room := mqttMakeRoom mq gateway.queue
    let payload := envelopes.encode envelope
    if payload.length > mq.txBufferSize then { gateway with queue := room }
    else
      { gateway with
        queue := room ++ [⟨mqttBuildPublishTopic mq gateway.node.table gateway.node.nodeId, payload⟩]
        uplinks := ⟨packet, wire, envelope, gateway.node, request⟩ :: gateway.uplinks }

/-- `meshtastic_mqtt_on_tx` and `meshtastic_mqtt_on_rx`. Without a frame nothing is queued. -/
def mqttHook (envelopes : EnvelopeCodec) (request : Request cfg) (gateway : Gateway cfg) : Effect → Gateway cfg
  | .mqttOnTx packet wire =>
    if mq.uplinkEnabled = false ∨ packet.from_ ≠ gateway.node.nodeId then gateway
    else mqttQueueUplink mq envelopes request gateway packet wire
  | .mqttOnRx packet (some wire) =>
    if mq.uplinkEnabled = false ∨ packet.from_ = gateway.node.nodeId then gateway
    else mqttQueueUplink mq envelopes request gateway packet wire
  | _ => gateway

/-- `mqtt_queue_publish`, which queues a map report. -/
def mqttQueuePublish (gateway : Gateway cfg) (topic : CString) (payload : Octets) : Gateway cfg :=
  if payload.length > mq.txBufferSize then gateway
  else
    { gateway with
      queue := mqttMakeRoom mq gateway.queue ++ [⟨(topic.truncate (MQTT_TOPIC_SIZE - 1)).bytes, payload⟩] }

/-! ## Downlink -/

/-- `mqtt_handle_publish`: the message it passes to `meshtastic_inject_downlink_mesh_packet`. -/
def mqttHandlePublish (envelopes : EnvelopeCodec) (node : Node cfg) (payload : Octets) : Option MeshPacket :=
  if mq.downlinkEnabled = false then none
  else
    match envelopes.decode payload with
    | some ⟨some packet, some channelId, some gatewayId⟩ =>
      if channelsMatchesMqttName node.table channelId = false then none
      else if channelsDownlinkEnabled node.table (channelsPrimaryIndex node.table) = false then none
      else if gatewayId = mqttNodeIdStr node.nodeId then none
      else if packet.from_ = node.nodeId then none
      else
        match packet.payload with
        | .decoded _ =>
          if mq.encryptionEnabled then none
          else some { packet.toMeshPacket with viaMqtt := true, channel := channelsPrimaryIndex node.table }
        | _ => some { packet.toMeshPacket with viaMqtt := true }
    | _ => none

/-! ## Steps -/

/-- What happens on a gateway: a call into the stack, a message from the broker, a map report, or the
MQTT thread taking entries out of the queue. -/
inductive GatewayRequest (cfg : Kconfig) where
  | call (request : Request cfg)
  | publish (payload : Octets) (around : Surroundings)
  | report (topic : CString) (payload : Octets)
  | drain (published : Nat)

/-- A call into the stack; its log starts afresh, and the hooks in it are run in their order. The node
id and the channel table do not change during a call that has hooks in it. -/
def Gateway.call (codec : Codec) (envelopes : EnvelopeCodec) (board : Board) (gateway : Gateway cfg)
    (request : Request cfg) : Option (Gateway cfg) :=
  (gateway.node.cleared.step codec board request).map fun next =>
    (next.log.reverse.map Record.effect).foldl (mqttHook mq envelopes request) { gateway with node := next }

def Gateway.step (codec : Codec) (envelopes : EnvelopeCodec) (board : Board) (gateway : Gateway cfg) :
    GatewayRequest cfg → Option (Gateway cfg)
  | .call request => gateway.call mq codec envelopes board request
  | .publish payload around =>
    match mqttHandlePublish mq envelopes gateway.node payload with
    | none => some gateway
    | some mesh => gateway.call mq codec envelopes board (.inject mesh around)
  | .report topic payload => some (mqttQueuePublish mq gateway topic payload)
  | .drain published => some { gateway with queue := gateway.queue.drop published }

def Gateway.powerOn (cfg : Kconfig) (table : ChannelTable) : Gateway cfg :=
  { node := Node.powerOn cfg table, queue := [], uplinks := [] }

end

/-! ## Values for examples -/

def TransportMechanism.toNat : TransportMechanism → Nat
  | internal => 0
  | lora => 1
  | mqtt => 5
  | other value => value

def floatBits (value : Int) : UInt32 :=
  if value = 0 then 0
  else
    let exponent := Nat.log2 value.natAbs
    UInt32.ofNat ((if value < 0 then 2 ^ 31 else 0) + (127 + exponent) * 2 ^ 23 +
      (value.natAbs - 2 ^ exponent) * 2 ^ (23 - exponent))

def int32Varint (value : Int) : Nat := (value % 2 ^ 64).toNat

def meshFields (mesh : ReportedMeshPacket) : List Protobuf.Field :=
  optionalField (mesh.from_ != 0) 1 (.fixed32 mesh.from_) ++ optionalField (mesh.to_ != 0) 2 (.fixed32 mesh.to_) ++
  optionalField (mesh.channel != 0) 3 (.varint mesh.channel.toNat) ++
  (match mesh.payload with
    | .decoded data => [⟨4, .bytes (Protobuf.encodeFields (dataFields data))⟩]
    | .encrypted enc => [⟨5, .bytes enc⟩]
    | .unset _ => []) ++
  optionalField (mesh.id != 0) 6 (.fixed32 mesh.id) ++
  optionalField (mesh.rxSnr != 0) 8 (.fixed32 (floatBits mesh.rxSnr)) ++
  optionalField (mesh.hopLimit != 0) 9 (.varint mesh.hopLimit.toNat) ++ optionalField mesh.wantAck 10 (.varint 1) ++
  optionalField (mesh.rxRssi != 0) 12 (.varint (int32Varint mesh.rxRssi)) ++
  optionalField mesh.viaMqtt 14 (.varint 1) ++
  optionalField (mesh.hopStart != 0) 15 (.varint mesh.hopStart.toNat) ++
  optionalField (mesh.nextHop != 0) 18 (.varint mesh.nextHop.toNat) ++
  optionalField (mesh.relayNode != 0) 19 (.varint mesh.relayNode.toNat) ++
  optionalField (mesh.transportMechanism != .internal) 21 (.varint mesh.transportMechanism.toNat)

def envelopeOctets (envelope : ServiceEnvelope) : Octets :=
  Protobuf.encodeFields
    (envelope.packet.toList.map (fun mesh => ⟨1, .bytes (Protobuf.encodeFields (meshFields mesh))⟩) ++
      envelope.channelId.toList.map (fun text => ⟨2, .bytes text.bytes⟩) ++
      envelope.gatewayId.toList.map (fun text => ⟨3, .bytes text.bytes⟩))

def envelopeCodec (known : List ServiceEnvelope) : EnvelopeCodec where
  encode := envelopeOctets
  decode octets := known.find? (envelopeOctets · = octets)

def plainMqtt : MqttConfig where
  brokerHost := MQTT_DEFAULT_BROKER
  root := ⟨[0x6d, 0x73, 0x68], by decide⟩
  encryptionEnabled := true
  uplinkEnabled := true
  downlinkEnabled := true
  publishQueueSize := 4
  txBufferSize := 256
  publishQueueSize_range := leastCapacity_range
  txBufferSize_range := by decide

theorem ownName_noNul : (0 : UInt8) ∉ [0x4f, 0x77, 0x6e] := by decide

def gatewayTable : ChannelTable :=
  { channelSlots := fun i =>
      if i = 0 then
        { hasSettings := true, role := .primary,
          settings := { name := CHANNEL_LONGFAST, psk := defaultPsk, uplinkEnabled := true, downlinkEnabled := true } }
      else if i = 1 then
        { hasSettings := true, role := .secondary, settings := { name := ⟨[0x4f, 0x77, 0x6e], ownName_noNul⟩, psk := [2] } }
      else { hasSettings := true }
    channelHashes := fun i => if i = 0 then 0x08 else if i = 1 then 0x57 else 0
    primaryIndex := 0
    chHash := 0x08 }

def gatewayBoot : Boot := { psa := true, settings := { plainSettings with table := gatewayTable }, failed := none }

end Meshtastic
