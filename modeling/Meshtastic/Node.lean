import Meshtastic.Reliable

/-! A node of the mesh: the part of `struct meshtastic_ctx` that the send and receive paths
share, and the send path of `meshtastic.c`, `meshtastic_packet.c` and `meshtastic_outbound.c`. -/

namespace Meshtastic
open Bytes

/-- What the stack has done, as far as it can be seen from outside. -/
inductive Effect where
  /-- `meshtastic_build_wire_packet` made the frame of a packet under a key -/
  | built (packet : Packet) (key wire : Octets)
  /-- a frame went into the outbound queue -/
  | handed (wire : Octets)
  /-- `deliver_packet` -/
  | delivered (packet : Packet)
  /-- the port filter, in the mode of the node, kept a packet from delivery -/
  | dropped (packet : Packet) (mode : RebroadcastMode)
  /-- a frame that was not a duplicate was not decoded; the node's mode, and whether its NodeDB knows the source -/
  | undecoded (packet : Packet) (mode : RebroadcastMode) (known : Bool)
  | event (type : EventType) (err : Option Errno) (packet : Packet)
  | mqttOnTx (packet : Packet) (wire : Octets)
  | mqttOnRx (packet : Packet) (wire : Option Octets)
  deriving DecidableEq

structure Record where
  node : UInt32
  effect : Effect
  deriving DecidableEq

/-- The state of a node. `allocated` counts the ids drawn since the beginning of time and `log`
lists what has happened, newest first; the code has neither. -/
structure Node (cfg : Kconfig) where
  nodeId : UInt32
  hopLimit : UInt8
  nextPktId : UInt32
  initialized : Bool
  table : ChannelTable
  deviceRole : DeviceRole
  rebroadcastMode : RebroadcastMode
  dupCache : Fin cfg.dupCacheSize → UInt32 × UInt32
  dupHead : Fin cfg.dupCacheSize
  entries : ReliableTable cfg
  allocated : Nat
  log : List Record

/-- What became of a frame offered to the outbound queue. -/
inductive RadioAnswer where
  | full (err : Errno)
  | queued (result : Option Errno)

/-- What a send meets outside the stack: NodeDB, the radio, the clock and the random source. -/
structure Answer where
  nodedb : NodeDbGet
  radio : RadioAnswer
  uptime : Int
  rand : UInt32

/-- `k_timeout_t`, as far as the send path tells timeouts apart. -/
inductive Wait where
  | noWait
  | limited
  | forever
  deriving DecidableEq

section
variable {cfg : Kconfig}

def Node.note (node : Node cfg) (effect : Effect) : Node cfg :=
  { node with log := ⟨node.nodeId, effect⟩ :: node.log }

def Node.cleared (node : Node cfg) : Node cfg := { node with log := [] }

def channelsPrimaryIndex (t : ChannelTable) : UInt8 := UInt8.ofNat t.primaryIndex.val

def Node.allocatePacketId (node : Node cfg) : UInt32 × Node cfg :=
  let id := node.nextPktId
  let node := { node with nextPktId := node.nextPktId + 1, allocated := node.allocated + 1 }
  if id = 0 then (node.nextPktId, { node with nextPktId := node.nextPktId + 1 })
  else (id, node)

def Node.drawId (node : Node cfg) (given : UInt32) : UInt32 × Node cfg :=
  if given = 0 then node.allocatePacketId else (given, node)

/-- The defaults `send_packet_prepare` fills in, for the id it has settled on. -/
def Node.fillPacket (node : Node cfg) (packet : Packet) (id : UInt32) : Packet :=
  let hopLimit := if packet.hopLimit = 0 then node.hopLimit else packet.hopLimit
  { packet with
    from_ := if packet.from_ = 0 then node.nodeId else packet.from_
    id := id
    hopLimit := hopLimit
    hopStart := if packet.hopStart = 0 then hopLimit else packet.hopStart
    channelIndex := if packet.channelIndex = CHANNEL_INDEX_INVALID then channelsPrimaryIndex node.table
      else packet.channelIndex }

def wireKey (t : ChannelTable) (nodedb : NodeDbGet) (packet : Packet) : Octets :=
  let chIndex := channelsResolveSendIndex t nodedb packet.to_ packet.channelIndex packet.channel
  match channelGetKey t.channelSlots t.primaryIndex chIndex with
  | some (.ok key) => key
  | _ => []

def sendPacketPrepare (codec : Codec) (nodedb : NodeDbGet) (node : Node cfg) (packet : Packet) :
    Option (Except Errno (Packet × Octets) × Node cfg) :=
  if node.initialized = false then some (.error .einval, node)
  else if packet.to_ = 0 ∨ packet.payload.length > MAX_PAYLOAD_LEN then some (.error .einval, node)
  else
    let (id, node) := node.drawId packet.id
    let local_ := node.fillPacket packet id
    match buildWirePacket codec node.table nodedb local_ with
    | none => none
    | some (.error err) => some (.error err, node)
    | some (.ok wire) =>
      some (.ok (local_, wire), node.note (.built local_ (wireKey node.table nodedb local_) wire))

/-- `outbound_enqueue`: the error it returns, if any. -/
def Node.outboundEnqueue (node : Node cfg) (wire : Octets) (wait : Wait) (radio : RadioAnswer) :
    Option Errno × Node cfg :=
  if wire.length = 0 ∨ wire.length > PKT_MAX then (some .einval, node)
  else
    match radio with
    | .full err => (some (if wait = .noWait then .enomsg else err), node)
    | .queued result => (if wait = .noWait then none else result, node.note (.handed wire))

def Node.mqttOnTx (node : Node cfg) (packet : Packet) (wire : Octets) : Node cfg :=
  if cfg.mqtt then node.note (.mqttOnTx packet wire) else node

def Node.track (node : Node cfg) (answer : Answer) (packet : Packet) (wire : Octets) : Node cfg :=
  { node with entries := reliableTrack node.nodeId node.entries packet wire answer.uptime answer.rand }

def sendPacketComplete (node : Node cfg) (local_ : Packet) (wire : Octets) (wait : Wait) : Node cfg :=
  if wait = .forever then (node.note (.event .txDone none local_)).mqttOnTx local_ wire else node

def sendPacket (codec : Codec) (answer : Answer) (node : Node cfg) (packet : Packet) (wait : Wait) :
    Option (Option Errno × Node cfg) :=
  match sendPacketPrepare codec answer.nodedb node packet with
  | none => none
  | some (.error err, node) => some (some err, node)
  | some (.ok (local_, wire), node) =>
    match node.outboundEnqueue wire wait answer.radio with
    | (some err, node) => some (some err, node)
    | (none, node) => some (none, (sendPacketComplete node local_ wire wait).track answer local_ wire)

/-! ## Mesh messages -/

/-- The packet `meshtastic_send_mesh_pb` makes of a decoded message. -/
def meshPbPacket (mesh : MeshPacket) (data : Data) : Packet :=
  { from_ := mesh.from_
    to_ := if mesh.to_ ≠ 0 then mesh.to_ else NODE_BROADCAST
    id := mesh.id
    portnum := data.portnum
    payload := data.payload
    dataDest := data.dest
    dataSource := data.source
    requestId := data.requestId
    replyId := data.replyId
    hopLimit := mesh.hopLimit
    hopStart := mesh.hopStart
    channel := 0
    channelIndex := if mesh.channel.toNat < MAX_CHANNELS then mesh.channel else CHANNEL_INDEX_INVALID
    wantAck := mesh.wantAck
    viaMqtt := mesh.viaMqtt
    wantResponse := data.wantResponse
    nextHop := mesh.nextHop
    relayNode := mesh.relayNode }

def meshPbHash (t : ChannelTable) (mesh : MeshPacket) : UInt8 :=
  if mesh.channel.toNat < MAX_CHANNELS then channelsGetHash t mesh.channel
  else if mesh.channel ≠ 0 then mesh.channel else t.chHash

def Node.meshPbHeader (node : Node cfg) (mesh : MeshPacket) (id : UInt32) (hopLimit hopStart : UInt8) :
    WireHeader :=
  { dest := if mesh.to_ ≠ 0 then mesh.to_ else NODE_BROADCAST
    src := if mesh.from_ ≠ 0 then mesh.from_ else node.nodeId
    id := id
    flags := packFlags hopLimit hopStart mesh.wantAck mesh.viaMqtt
    channel := meshPbHash node.table mesh
    nextHop := mesh.nextHop
    relayNode := mesh.relayNode }

def meshPbTxPacket (mesh : MeshPacket) (hdr : WireHeader) (hopLimit hopStart : UInt8) : Packet :=
  { from_ := hdr.src
    to_ := hdr.dest
    id := hdr.id
    hopLimit := hopLimit
    hopStart := hopStart
    channel := hdr.channel
    wantAck := mesh.wantAck
    viaMqtt := mesh.viaMqtt
    nextHop := mesh.nextHop
    relayNode := mesh.relayNode }

/-- The encrypted branch of `meshtastic_send_mesh_pb`. -/
def sendEncryptedMeshPb (answer : Answer) (node : Node cfg) (mesh : MeshPacket) (enc : Octets) :
    Option Errno × Node cfg :=
  if enc.length > PAYLOAD_MAX then (some .einval, node)
  else
    let hopLimit := if mesh.hopLimit = 0 then node.hopLimit else mesh.hopLimit
    let hopStart := if mesh.hopStart = 0 then hopLimit else mesh.hopStart
    let (id, node) := node.drawId mesh.id
    let hdr := node.meshPbHeader mesh id hopLimit hopStart
    let wire := hdr.octets ++ enc
    match node.outboundEnqueue wire .forever answer.radio with
    | (some err, node) => (some err, node)
    | (none, node) => (none, node.mqttOnTx (meshPbTxPacket mesh hdr hopLimit hopStart) wire)

def sendMeshPb (codec : Codec) (answer : Answer) (node : Node cfg) (mesh : MeshPacket) :
    Option (Option Errno × Node cfg) :=
  match mesh.payload with
  | .decoded data => sendPacket codec answer node (meshPbPacket mesh data) .forever
  | .encrypted enc => some (sendEncryptedMeshPb answer node mesh enc)
  | .unset _ => some (some .enotsup, node)

end

end Meshtastic
