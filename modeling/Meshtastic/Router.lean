import Meshtastic.Node

/-! The receive side of a node (`meshtastic_router.c`, `meshtastic_routing.c`,
`meshtastic_modules.c`), its initialisation, and one step of a node: a call into the stack from
the application, the phone, the radio, the MQTT gateway or the retry timer, run to its end. -/

namespace Meshtastic
open Bytes

/-- A packet made by a module in `src/`: none of them sets the source, the id or want_ack. -/
structure ModulePacket where
  packet : Packet
  unsent : packet.from_ = 0 ∧ packet.id = 0 ∧ packet.wantAck = false
  port : packet.portnum = PORT_POSITION ∨ packet.portnum = PORT_NODEINFO ∨ packet.portnum = PORT_TELEMETRY

/-- What the modules do with one packet: the packets their `on_packet` handlers send and the
reply of the first `alloc_reply` that gives one. -/
structure Modules where
  probes : List (ModulePacket × Answer) := []
  reply : Option (ModulePacket × Answer) := none

/-- What the handling of an inbound packet meets outside the stack. -/
structure Surroundings where
  nodedb : NodeDbGet
  ack : Answer
  relay : Answer
  modules : Modules := {}

section
variable {cfg : Kconfig} (codec : Codec)

/-! ## Duplicates -/

def Node.dupCheck (node : Node cfg) (src id : UInt32) : Bool :=
  decide (∃ i, node.dupCache i = (src, id))

def Node.dupAdd (node : Node cfg) (src id : UInt32) : Node cfg :=
  { node with
    dupCache := Function.update node.dupCache node.dupHead (src, id)
    dupHead := ⟨(node.dupHead.val + 1) % cfg.dupCacheSize,
      Nat.mod_lt _ (Nat.lt_of_le_of_lt (Nat.zero_le _) node.dupHead.isLt)⟩ }

/-! ## Acknowledgements -/

def ROUTING_REPLY_HOP_MARGIN : UInt8 := 2

def routingHopLimitForReply (hopLimit : UInt8) (req : Packet) : UInt8 :=
  if req.hopStart = 0 then 0
  else if req.hopStart < req.hopLimit then hopLimit
  else
    let hopsUsed := req.hopStart - req.hopLimit
    if hopsUsed > hopLimit then hopsUsed
    else if hopsUsed + ROUTING_REPLY_HOP_MARGIN < hopLimit then hopsUsed + ROUTING_REPLY_HOP_MARGIN
    else hopLimit

def routingAckShouldRequestAck (nodeId : UInt32) (req : Packet) : Bool :=
  req.wantAck && req.to_ = nodeId &&
    (req.portnum = PORT_TEXT_MESSAGE || req.portnum = PORT_TEXT_MESSAGE_COMPRESSED)

def Node.routingAck (node : Node cfg) (req : Packet) (id : UInt32) (payload : Octets) : MeshPacket :=
  let hopLimit := routingHopLimitForReply node.hopLimit req
  { from_ := node.nodeId
    to_ := req.from_
    id := id
    channel := if req.channelIndex ≠ CHANNEL_INDEX_INVALID then req.channelIndex
      else channelsPrimaryIndex node.table
    hopLimit := hopLimit
    hopStart := hopLimit
    wantAck := routingAckShouldRequestAck node.nodeId req
    payload := .decoded { portnum := PORT_ROUTING, requestId := req.id, payload := payload } }

def routingSendAck (answer : Answer) (node : Node cfg) (req : Packet) : Option (Option Errno × Node cfg) :=
  if req.to_ ≠ node.nodeId then some (some .einval, node)
  else
    let (id, node) := node.allocatePacketId
    let payload := codec.encodeRouting (.errorReason 0)
    if payload.length > MAX_PAYLOAD_LEN then some (some .enomem, node)
    else sendMeshPb codec answer node (node.routingAck req id payload)

/-- `meshtastic_reliable_on_routing` with the report of its outcome. -/
def Node.settle (node : Node cfg) (packet : Packet) : Node cfg :=
  match reliableOnRouting codec node.nodeId node.entries packet with
  | (entries, none) => { node with entries := entries }
  | (entries, some report) =>
    { node with entries := entries }.note
      (.event report.type report.err (reliableEmitPacket node.nodeId report.outcome))

def packetIsToUs (nodeId : UInt32) (packet : Packet) : Bool :=
  packet.to_ = nodeId || packet.to_ = NODE_BROADCAST

def routingOnDecoded (answer : Answer) (node : Node cfg) (packet : Packet) : Option (Node cfg) :=
  if packetIsToUs node.nodeId packet = false ∨ packet.from_ = node.nodeId then some node
  else
    let node := node.settle codec packet
    if packet.wantAck ∧ packet.to_ = node.nodeId then
      (routingSendAck codec answer node packet).map Prod.snd
    else some node

/-! ## Modules -/

def packetSetReplyTo (reply req : Packet) : Packet :=
  let reply := { reply with to_ := req.from_ }
  let reply :=
    if req.channelIndex ≠ CHANNEL_INDEX_INVALID then { reply with channelIndex := req.channelIndex }
    else if req.channel ≠ 0 then { reply with channel := req.channel }
    else reply
  { reply with requestId := req.id, replyId := 0, wantResponse := false }

def sendProbes : Node cfg → List (ModulePacket × Answer) → Option (Node cfg)
  | node, [] => some node
  | node, (probe, answer) :: rest =>
    match sendPacket codec answer node probe.packet .noWait with
    | none => none
    | some (_, node) => sendProbes node rest

def dispatchModules (modules : Modules) (node : Node cfg) (packet : Packet) : Option (Node cfg) :=
  match sendProbes codec node modules.probes with
  | none => none
  | some node =>
    if packet.to_ ≠ node.nodeId ∨ packet.wantResponse = false then some node
    else
      match modules.reply with
      | none => some node
      | some (reply, answer) =>
        (sendPacket codec answer node (packetSetReplyTo reply.packet packet) .noWait).map Prod.snd

/-! ## Relaying and delivery -/

/-- The flags of a relayed frame: one hop less, the other bits as they were. -/
def relayFlags (flags hopLimit : UInt8) : UInt8 :=
  (flags &&& ~~~FLAGS_HOP_LIMIT_MASK) ||| ((hopLimit - 1) &&& FLAGS_HOP_LIMIT_MASK)

def relayFrame (frame : Octets) (flags hopLimit : UInt8) : Octets :=
  frame.set 12 (relayFlags flags hopLimit)

def relayPacket (radio : RadioAnswer) (node : Node cfg) (frame : Octets) (hdr : WireHeader) (hopLimit : UInt8) :
    Node cfg :=
  if frame.length > PKT_MAX ∨ hopLimit = 0 then node
  else (node.outboundEnqueue (relayFrame frame hdr.flags hopLimit) .noWait radio).2

def routingSniffRebroadcast (radio : RadioAnswer) (node : Node cfg) (hdr : WireHeader) (frame : Octets)
    (packet : Packet) : Node cfg :=
  if isRebroadcaster node.deviceRole node.rebroadcastMode = false then node
  else if hdr.src = node.nodeId ∨ hdr.dest = node.nodeId then node
  else if flagsHopLimit hdr.flags = 0 then node
  else if hdr.dest = NODE_BROADCAST ∧ packet.id = 0 then node
  else if node.rebroadcastMode = .localOnly then node
  else relayPacket radio node frame hdr (flagsHopLimit hdr.flags)

def relayInjectedEncryptedMeshPacket (radio : RadioAnswer) (node : Node cfg) (mesh : MeshPacket) (enc : Octets) :
    Option Errno × Node cfg :=
  if enc.length > PAYLOAD_MAX then (some .einval, node)
  else
    let (id, node) := node.drawId mesh.id
    node.outboundEnqueue ((node.meshPbHeader mesh id mesh.hopLimit mesh.hopStart).octets ++ enc) .noWait radio

/-- `deliver_packet`: the receive callback, the event and the phone. -/
def deliverPacket (node : Node cfg) (packet : Packet) : Node cfg :=
  (node.note (.delivered packet)).note (.event .packetReceived none packet)

/-- The ports CORE_PORTNUMS_ONLY lets through. -/
def isCorePort (portnum : UInt32) : Bool :=
  portnum = PORT_TEXT_MESSAGE || portnum = PORT_POSITION || portnum = PORT_NODEINFO ||
    portnum = PORT_ROUTING || portnum = PORT_TELEMETRY

def filterAndDeliver (node : Node cfg) (packet : Packet) : Node cfg :=
  if node.rebroadcastMode = .corePortnumsOnly ∧ isCorePort packet.portnum = false then
    node.note (.dropped packet node.rebroadcastMode)
  else if packetIsToUs node.nodeId packet then deliverPacket node packet
  else node

def Node.mqttOnRx (node : Node cfg) (packet : Packet) (wire : Option Octets) : Node cfg :=
  if cfg.mqtt then node.note (.mqttOnRx packet wire) else node

/-- The part of `meshtastic_handle_inbound_packet` for a decoded packet that follows delivery. -/
def handleDecoded (around : Surroundings) (node : Node cfg) (packet : Packet) (wire : Option Octets) :
    Option (Node cfg) :=
  match routingOnDecoded codec around.ack (node.mqttOnRx packet wire) packet with
  | none => none
  | some node => dispatchModules codec around.modules node packet

/-- `meshtastic_handle_inbound_packet` of a packet that came as a frame. -/
def handleInboundFrame (around : Surroundings) (node : Node cfg) (packet : Packet) (hdr : WireHeader)
    (frame : Octets) (decoded : Bool) : Option (Node cfg) :=
  let handled :=
    if decoded then handleDecoded codec around (filterAndDeliver node packet) packet (some frame)
    else some node
  handled.map fun node => routingSniffRebroadcast around.relay.radio node hdr frame packet

/-- `meshtastic_handle_inbound_packet` of a decoded packet that came without a frame. -/
def handleInboundMessage (around : Surroundings) (node : Node cfg) (packet : Packet) : Option (Node cfg) :=
  handleDecoded codec around (filterAndDeliver node packet) packet none

/-! ## LoRa -/

/-- `meshtastic_try_decode_wire_packet` as the router calls it. -/
def Node.tryDecode (node : Node cfg) (nodedb : NodeDbGet) (frame : Octets) (rssi snr : Int) :
    Option (Except Errno (Packet × Bool)) :=
  tryDecodeWirePacket codec node.table node.rebroadcastMode nodedb frame rssi snr MAX_PAYLOAD_LEN

def reackDuplicate (around : Surroundings) (node : Node cfg) (hdr : WireHeader) (frame : Octets)
    (rssi snr : Int) : Option (Node cfg) :=
  if flagsWantAck hdr.flags = false ∨ hdr.dest ≠ node.nodeId then some node
  else
    match node.tryDecode codec around.nodedb frame rssi snr with
    | none => none
    | some (.ok (packet, true)) => routingOnDecoded codec around.ack node packet
    | some _ => some node

def processLoraRx (around : Surroundings) (node : Node cfg) (frame : Octets) (rssi snr : Int) :
    Option (Node cfg) :=
  match readHeader frame with
  | none => some node
  | some (hdr, _) =>
    if cfg.mqttIgnoreMqtt ∧ flagsViaMqtt hdr.flags then some node
    else if node.dupCheck hdr.src hdr.id then reackDuplicate codec around node hdr frame rssi snr
    else
      let node := node.dupAdd hdr.src hdr.id
      match node.tryDecode codec around.nodedb frame rssi snr with
      | none => none
      | some (.error _) => some node
      | some (.ok (packet, decoded)) =>
        let node := if decoded then node
          else node.note (.undecoded packet node.rebroadcastMode (around.nodedb packet.from_).isSome)
        handleInboundFrame codec around node packet hdr frame decoded

/-! ## MQTT -/

/-- The relay stage of `meshtastic_inject_downlink_mesh_packet`. -/
def injectRelay (around : Surroundings) (node : Node cfg) (work : MeshPacket) :
    Option (Option Errno × Node cfg) :=
  if work.to_ = node.nodeId then some (none, node)
  else if work.hopLimit = 0 then
    match work.payload with
    | .encrypted enc => some (relayInjectedEncryptedMeshPacket around.relay.radio node work enc)
    | _ => some (none, node)
  else sendMeshPb codec around.relay node work

/-- The delivery stage, for a message that is decoded. -/
def injectDeliver (around : Surroundings) (node : Node cfg) (work : MeshPacket) :
    Option (Option Errno × Node cfg) :=
  match meshPbToPacket codec node.table work MAX_PAYLOAD_LEN with
  | none => none
  | some (.error err) => some (some err, node)
  | some (.ok packet) =>
    (handleInboundMessage codec around node { packet with viaMqtt := true }).map fun node => (none, node)

def injectDownlinkMeshPacket (around : Surroundings) (node : Node cfg) (mesh : MeshPacket) :
    Option (Option Errno × Node cfg) :=
  if node.initialized = false then some (some .einval, node)
  else
    let work := { mesh with viaMqtt := true }
    if node.dupCheck work.from_ work.id then some (some .ealready, node)
    else
      match injectRelay codec around (node.dupAdd work.from_ work.id) work with
      | none => none
      | some (some err, node) => some (some err, node)
      | some (none, node) =>
        if work.to_ ≠ node.nodeId ∧ work.to_ ≠ NODE_BROADCAST then some (none, node)
        else
          match work.payload with
          | .decoded _ => injectDeliver codec around node work
          | _ =>
            match meshPbTryDecode codec node.table work with
            | none => none
            | some (.error _) => some (none, node)
            | some (.ok work) => injectDeliver codec around node work

end

/-! ## Initialisation -/

inductive NodeIdSource where
  | custom (default : UInt32)
  | hwinfo (derived : Option UInt32)

structure Board where
  nodeIdSource : NodeIdSource
  defaultHopLimit : UInt8

/-- `struct meshtastic_config` as the caller of `meshtastic_init` gives it, before any check. -/
structure NodeConfig where
  loraReady : Bool
  psk : Option Octets
  channelName : Option CString
  frequency : UInt32
  nodeId : UInt32
  hopLimit : UInt8

/-- The settings an administrator, or a reload from flash, may leave in a node. -/
structure Settings where
  table : ChannelTable
  hopLimit : UInt8
  deviceRole : DeviceRole
  rebroadcastMode : RebroadcastMode

/-- What `meshtastic_init` meets: PSA, and the stages from `meshtastic_config_store_seed` on, with the
settings they leave and the error that stopped them. -/
structure Boot where
  psa : Bool
  settings : Settings
  failed : Option Errno

section
variable {cfg : Kconfig}

def Node.configure (node : Node cfg) (settings : Settings) : Node cfg :=
  { node with
    table := settings.table
    hopLimit := settings.hopLimit
    deviceRole := settings.deviceRole
    rebroadcastMode := settings.rebroadcastMode }

/-- The node id `meshtastic_init` stores, and whether it goes on. A hardware id of zero is stored
before it is rejected. -/
def initNodeId (source : NodeIdSource) (current configured : UInt32) : UInt32 × Option Errno :=
  match source with
  | .custom default => (if configured ≠ 0 then configured else default, none)
  | .hwinfo none => (current, some .enodev)
  | .hwinfo (some derived) => (derived, if derived = 0 then some .einval else none)

def Node.reset (node : Node cfg) (table : ChannelTable) (hopLimit : UInt8)
    (positive : 0 < cfg.dupCacheSize) : Node cfg :=
  { node with
    table := table
    hopLimit := hopLimit
    nextPktId := 1
    dupHead := ⟨0, positive⟩
    dupCache := fun _ => (0, 0)
    entries := reliableReset cfg }

def meshtasticInit (board : Board) (node : Node cfg) (config : NodeConfig) (boot : Boot) :
    Option (Option Errno × Node cfg) :=
  if config.loraReady = false then some (some .enodev, node)
  else
    match config.psk, config.channelName with
    | some psk, some channelName =>
      if (psk.length ≠ 16 ∧ psk.length ≠ 32) ∨ config.frequency = 0 then some (some .einval, node)
      else
        match initNodeId board.nodeIdSource node.nodeId config.nodeId with
        | (nodeId, some err) => some (some err, { node with nodeId := nodeId })
        | (nodeId, none) =>
          match channelsInitFromConfig node.table.chHash (some ⟨psk, some channelName⟩) with
          | none => none
          | some table =>
            let hopLimit := if config.hopLimit = 0 then board.defaultHopLimit else config.hopLimit
            let node := { node with nodeId := nodeId }.reset table hopLimit
              (Nat.lt_of_lt_of_le (by decide) cfg.dupCacheSize_range.1)
            if boot.psa = false then some (some .eio, node)
            else some (boot.failed, { node with initialized := boot.failed.isNone }.configure boot.settings)
    | _, _ => some (some .einval, node)

/-! ## Steps -/

/-- A call into the stack, with what it meets outside. -/
inductive Request (cfg : Kconfig) where
  | init (config : NodeConfig) (boot : Boot)
  | configure (settings : Settings)
  | send (packet : Packet) (wait : Wait) (answer : Answer)
  | phone (mesh : MeshPacket) (answer : Answer)
  | receive (frame : Octets) (rssi snr : Int) (around : Surroundings)
  | inject (mesh : MeshPacket) (around : Surroundings)
  | work (now : Int) (rand : ReliableSlot cfg → UInt32) (radio : ReliableSlot cfg → RadioAnswer)

def Node.retransmit (radio : ReliableSlot cfg → RadioAnswer) : Node cfg → List (ReliableSlot cfg) → Node cfg
  | node, [] => node
  | node, i :: rest =>
    retransmit radio (node.outboundEnqueue (node.entries i).wire .noWait (radio i)).2 rest

def Node.report (node : Node cfg) : List ReliableReport → Node cfg
  | [] => node
  | report :: rest =>
    (node.note (.event report.type report.err (reliableEmitPacket node.nodeId report.outcome))).report rest

/-- `reliable_work_fn` on a node. -/
def Node.work (node : Node cfg) (now : Int) (rand : ReliableSlot cfg → UInt32)
    (radio : ReliableSlot cfg → RadioAnswer) : Node cfg :=
  let (entries, _, reports) := reliableWorkFn node.entries now rand
  let node := node.retransmit radio (workSlots node.entries now .retransmit)
  { node with entries := entries }.report reports

def Node.step (codec : Codec) (board : Board) (node : Node cfg) : Request cfg → Option (Node cfg)
  | .init config boot => (meshtasticInit board node config boot).map Prod.snd
  | .configure settings => some (node.configure settings)
  | .send packet wait answer => (sendPacket codec answer node packet wait).map Prod.snd
  | .phone mesh answer => (sendMeshPb codec answer node mesh).map Prod.snd
  | .receive frame rssi snr around => processLoraRx codec around node frame rssi snr
  | .inject mesh around => (injectDownlinkMeshPacket codec around node mesh).map Prod.snd
  | .work now rand radio => some (node.work now rand radio)

/-- A node before its first `meshtastic_init`: everything is zero. -/
def Node.powerOn (cfg : Kconfig) (table : ChannelTable) : Node cfg :=
  { nodeId := 0
    hopLimit := 0
    nextPktId := 0
    initialized := false
    table := table
    deviceRole := .client
    rebroadcastMode := .all
    dupCache := fun _ => (0, 0)
    dupHead := ⟨0, Nat.lt_of_lt_of_le (by decide) cfg.dupCacheSize_range.1⟩
    entries := reliableReset cfg
    allocated := 0
    log := [] }

end

/-! ## Values for examples -/

def plainBoard : Board := { nodeIdSource := .custom 0x11, defaultHopLimit := 3 }

def coldTable : ChannelTable := ⟨fun _ => {}, fun _ => 0, 0, 0⟩

def plainTable : ChannelTable :=
  { channelSlots := fun i =>
      if i = 0 then
        { hasSettings := true, role := .primary, settings := { name := CHANNEL_LONGFAST, psk := defaultPsk } }
      else { hasSettings := true }
    channelHashes := fun i => if i = 0 then 0x08 else 0
    primaryIndex := 0
    chHash := 0x08 }

def plainSettings : Settings :=
  { table := plainTable, hopLimit := 3, deviceRole := .client, rebroadcastMode := .all }

def plainNodeConfig : NodeConfig :=
  { loraReady := true, psk := some defaultPsk, channelName := some CHANNEL_LONGFAST, frequency := 869525000,
    nodeId := 0, hopLimit := 0 }

def plainBoot : Boot := { psa := true, settings := plainSettings, failed := none }

def plainAnswer : Answer := { nodedb := fun _ => none, radio := .queued none, uptime := 0, rand := 0 }

def plainAround : Surroundings := { nodedb := fun _ => none, ack := plainAnswer, relay := plainAnswer }

end Meshtastic
