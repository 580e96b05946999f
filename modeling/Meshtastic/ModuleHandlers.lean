import Meshtastic.Router

/-! The modules that send packets of their own when they hear one: `meshtastic_nodeinfo.c`,
`meshtastic_gnss.c`, `meshtastic_metrics.c` and `meshtastic_environment.c`, called by
`meshtastic_dispatch_modules` in the order of the linker section. The message module and NodeDB send
nothing. -/

namespace Meshtastic
open Bytes

structure ModuleKconfig where
  nodeinfo : Bool
  nodeinfoPeerCacheSize : Nat
  nodeinfoUnknownSuppressSec : Nat
  nodeinfoReplySuppressSec : Nat
  gnss : Bool
  gnssReplySuppressSec : Nat
  deviceTelemetry : Bool
  environmentTelemetry : Bool
  telemetryReplySuppressSec : Nat
  nodeinfoPeerCacheSize_range : 4 ≤ nodeinfoPeerCacheSize ∧ nodeinfoPeerCacheSize ≤ 64
  nodeinfoUnknownSuppressSec_range : 60 ≤ nodeinfoUnknownSuppressSec ∧ nodeinfoUnknownSuppressSec ≤ 86400
  nodeinfoReplySuppressSec_range : 60 ≤ nodeinfoReplySuppressSec ∧ nodeinfoReplySuppressSec ≤ 86400
  gnssReplySuppressSec_range : gnssReplySuppressSec ≤ 86400
  telemetryReplySuppressSec_range : telemetryReplySuppressSec ≤ 86400

inductive TelemetryVariant where
  | unset
  | deviceMetrics
  | environmentMetrics
  | other
  deriving DecidableEq

/-- What the handlers meet outside: the messages they would encode, nanopb on what they receive, the clock
when each of them reads it, and what becomes of the packets they send. -/
structure ModuleOutside where
  user : Octets
  decodesUser : Octets → Bool
  fix : Option Octets
  decodeTelemetry : Octets → Option TelemetryVariant
  deviceMetrics : Except Errno Octets
  environment : Except Errno Octets
  heardAt : Int
  nodeinfoAt : Int
  positionAt : Int
  deviceAt : Int
  environmentAt : Int
  probe : Answer
  reply : Answer

def MSEC_PER_SEC : Int := 1000

def intervalElapsed (valid : Bool) (lastMs nowMs intervalMs : Int) : Bool :=
  !valid || nowMs - lastMs ≥ intervalMs

/-! ## Packets of modules -/

/-- `pb_encode` of a message into a payload buffer. -/
def encodePayload (message : Octets) : Except Errno Octets :=
  if message.length > MAX_PAYLOAD_LEN then .error .enomem else .ok message

/-- The initialiser the modules share. What it does not name is zero, the channel index too. -/
def modulePacket (portnum dest : UInt32) (wantResponse : Bool) (channel : UInt8) (responseToId : UInt32)
    (payload : Octets) : Packet :=
  { to_ := dest
    portnum := portnum
    payload := payload
    channel := channel
    wantResponse := wantResponse
    requestId := responseToId }

def nodeinfoBuildPacket (dest : UInt32) (wantResponse : Bool) (channel : UInt8) (responseToId : UInt32)
    (user : Octets) : Except Errno ModulePacket :=
  (encodePayload user).map fun payload =>
    ⟨modulePacket PORT_NODEINFO dest wantResponse channel responseToId payload, ⟨rfl, rfl, rfl⟩, .inr (.inl rfl)⟩

/-- `position_build_packet`; `none` is -ENODATA. -/
def positionBuildPacket (dest : UInt32) (wantResponse : Bool) (channel : UInt8) (responseToId : UInt32)
    (fix : Option Octets) : Option (Except Errno ModulePacket) :=
  fix.map fun position => (encodePayload position).map fun payload =>
    ⟨modulePacket PORT_POSITION dest wantResponse channel responseToId payload, ⟨rfl, rfl, rfl⟩, .inl rfl⟩

def telemetryEncodePacket (dest : UInt32) (channel : UInt8) (responseToId : UInt32) (telemetry : Octets) :
    Except Errno ModulePacket :=
  (encodePayload telemetry).map fun payload =>
    ⟨modulePacket PORT_TELEMETRY dest false channel responseToId payload, ⟨rfl, rfl, rfl⟩, .inr (.inr rfl)⟩

/-- Requests without a source, or from this node, are refused by every handler. -/
def strangeSource (nodeId : UInt32) (packet : Packet) : Bool := packet.from_ = 0 || packet.from_ = nodeId

/-! ## NodeInfo -/

structure NodeinfoPeer where
  node : UInt32 := 0
  lastSeenMs : Int := 0
  lastRequestMs : Int := 0
  lastReplyMs : Int := 0
  hasUser : Bool := false
  requestTimeValid : Bool := false
  replyTimeValid : Bool := false

/-- The loop of `peer_get_locked`: the place for a node, and whether the node is there already. -/
def nodeinfoPeerFind {size : Nat} (peers : Fin size → NodeinfoPeer) (node : UInt32) :
    List (Fin size) → Fin size → Fin size × Bool
  | [], oldest => (oldest, false)
  | i :: rest, oldest =>
    if (peers i).node = node then (i, true)
    else if (peers i).node = 0 then (i, false)
    else nodeinfoPeerFind peers node rest (if (peers i).lastSeenMs < (peers oldest).lastSeenMs then i else oldest)

/-- The NodeInfo handler's `peer_get_locked`. -/
def nodeinfoPeerGet {size : Nat} (positive : 0 < size) (peers : Fin size → NodeinfoPeer) (node : UInt32)
    (nowMs : Int) : Fin size × NodeinfoPeer :=
  match nodeinfoPeerFind peers node (List.finRange size) ⟨0, positive⟩ with
  | (i, true) => (i, { peers i with lastSeenMs := nowMs })
  | (i, false) => (i, { node := node, lastSeenMs := nowMs })

def packetDecodeUser (decodesUser : Octets → Bool) (packet : Packet) : Bool :=
  packet.payload.length ≠ 0 && decodesUser packet.payload

/-! ## Telemetry -/

structure TelemetryPeer where
  from_ : UInt32 := 0
  lastReplyMs : Int := 0
  replyTimeValid : Bool := false

def TELEMETRY_PEER_SLOTS : Nat := 4

/-- The loop of `peer_get_locked` in the telemetry handlers. A peer that is found keeps its time. -/
def telemetryPeerFind (peers : Fin TELEMETRY_PEER_SLOTS → TelemetryPeer) (from_ : UInt32) :
    List (Fin TELEMETRY_PEER_SLOTS) → Fin TELEMETRY_PEER_SLOTS → Int → Fin TELEMETRY_PEER_SLOTS × TelemetryPeer
  | [], oldest, _ => (oldest, { peers oldest with from_ := from_, replyTimeValid := false })
  | i :: rest, oldest, oldestMs =>
    if (peers i).from_ = from_ then (i, peers i)
    else if (peers i).replyTimeValid = false then (i, { peers i with from_ := from_, replyTimeValid := false })
    else if (peers i).lastReplyMs < oldestMs then telemetryPeerFind peers from_ rest i (peers i).lastReplyMs
    else telemetryPeerFind peers from_ rest oldest oldestMs

def telemetryPeerGet (peers : Fin TELEMETRY_PEER_SLOTS → TelemetryPeer) (from_ : UInt32) :
    Fin TELEMETRY_PEER_SLOTS × TelemetryPeer :=
  telemetryPeerFind peers from_ (List.finRange TELEMETRY_PEER_SLOTS) ⟨0, by decide⟩ INT64_MAX

def telemetryDecodeRequest (decode : Octets → Option TelemetryVariant) (packet : Packet) : Option TelemetryVariant :=
  if packet.payload.length = 0 then some .unset else decode packet.payload

/-! ## Handlers -/

/-- What the handlers remember: peers they have asked or answered, and when the position was last told. -/
structure ModuleState (mod : ModuleKconfig) where
  nodeinfoPeers : Fin mod.nodeinfoPeerCacheSize → NodeinfoPeer := fun _ => {}
  positionReplyValid : Bool := false
  positionLastReplyMs : Int := 0
  devicePeers : Fin TELEMETRY_PEER_SLOTS → TelemetryPeer := fun _ => {}
  environmentPeers : Fin TELEMETRY_PEER_SLOTS → TelemetryPeer := fun _ => {}

section
variable {mod : ModuleKconfig}

def ModuleState.nodeinfoPeer (state : ModuleState mod) (node : UInt32) (nowMs : Int) :
    Fin mod.nodeinfoPeerCacheSize × NodeinfoPeer :=
  nodeinfoPeerGet (Nat.lt_of_lt_of_le (by decide) mod.nodeinfoPeerCacheSize_range.1) state.nodeinfoPeers node nowMs

def ModuleState.withNodeinfoPeer (state : ModuleState mod) (i : Fin mod.nodeinfoPeerCacheSize) (peer : NodeinfoPeer) :
    ModuleState mod :=
  { state with nodeinfoPeers := Function.update state.nodeinfoPeers i peer }

/-- `meshtastic_module_nodeinfo_on_packet`, with the packet it sends. -/
def nodeinfoOnPacket (outside : ModuleOutside) (nodeId : UInt32) (primaryIndex : UInt8) (state : ModuleState mod)
    (packet : Packet) : ModuleState mod × Option ModulePacket :=
  if strangeSource nodeId packet then (state, none)
  else
    let isNodeinfo := packet.portnum = PORT_NODEINFO
    let (i, peer) := state.nodeinfoPeer packet.from_ outside.heardAt
    let peer := { peer with
      hasUser := peer.hasUser || (isNodeinfo && packetDecodeUser outside.decodesUser packet) }
    if !peer.hasUser && !isNodeinfo && intervalElapsed peer.requestTimeValid peer.lastRequestMs outside.heardAt
        (mod.nodeinfoUnknownSuppressSec * MSEC_PER_SEC) then
      let channel := if packet.channelIndex ≠ CHANNEL_INDEX_INVALID then packet.channelIndex else primaryIndex
      (state.withNodeinfoPeer i { peer with requestTimeValid := true, lastRequestMs := outside.heardAt },
        (nodeinfoBuildPacket packet.from_ true channel 0 outside.user).toOption)
    else (state.withNodeinfoPeer i peer, none)

def nodeinfoAllocReply (outside : ModuleOutside) (nodeId : UInt32) (state : ModuleState mod) (req : Packet) :
    ModuleState mod × Except Errno ModulePacket :=
  if strangeSource nodeId req then (state, .error .einval)
  else
    let (i, peer) := state.nodeinfoPeer req.from_ outside.nodeinfoAt
    if intervalElapsed peer.replyTimeValid peer.lastReplyMs outside.nodeinfoAt
        (mod.nodeinfoReplySuppressSec * MSEC_PER_SEC) then
      (state.withNodeinfoPeer i { peer with replyTimeValid := true, lastReplyMs := outside.nodeinfoAt },
        nodeinfoBuildPacket req.from_ false req.channel req.id outside.user)
    else (state.withNodeinfoPeer i peer, .error .enoent)

def positionAllocReply (outside : ModuleOutside) (nodeId : UInt32) (state : ModuleState mod) (req : Packet) :
    ModuleState mod × Except Errno ModulePacket :=
  if strangeSource nodeId req then (state, .error .einval)
  else if intervalElapsed state.positionReplyValid state.positionLastReplyMs outside.positionAt
      (mod.gnssReplySuppressSec * MSEC_PER_SEC) then
    ({ state with positionReplyValid := true, positionLastReplyMs := outside.positionAt },
      (positionBuildPacket req.from_ false req.channel req.id outside.fix).getD (.error .enoent))
  else (state, .error .enoent)

/-- What the two telemetry handlers share: the request they accept, the rate limit per peer, and the
message. -/
def telemetryAllocReply (accepts : TelemetryVariant → Bool) (decode : Octets → Option TelemetryVariant)
    (intervalMs nowMs : Int) (collected : Except Errno Octets) (nodeId : UInt32)
    (peers : Fin TELEMETRY_PEER_SLOTS → TelemetryPeer) (req : Packet) :
    (Fin TELEMETRY_PEER_SLOTS → TelemetryPeer) × Except Errno ModulePacket :=
  if strangeSource nodeId req then (peers, .error .einval)
  else
    match telemetryDecodeRequest decode req with
    | none => (peers, .error .enoent)
    | some variant =>
      if accepts variant = false then (peers, .error .enoent)
      else
        let (i, peer) := telemetryPeerGet peers req.from_
        if intervalElapsed peer.replyTimeValid peer.lastReplyMs nowMs intervalMs then
          (Function.update peers i { peer with replyTimeValid := true, lastReplyMs := nowMs },
            match collected with
            | .error err => .error err
            | .ok telemetry => telemetryEncodePacket req.from_ req.channel req.id telemetry)
        else (Function.update peers i peer, .error .enoent)

def deviceTelemetryAllocReply (outside : ModuleOutside) (nodeId : UInt32) (state : ModuleState mod) (req : Packet) :
    ModuleState mod × Except Errno ModulePacket :=
  let (peers, reply) := telemetryAllocReply (fun variant => variant = .deviceMetrics || variant = .unset)
    outside.decodeTelemetry (mod.telemetryReplySuppressSec * MSEC_PER_SEC) outside.deviceAt outside.deviceMetrics
    nodeId state.devicePeers req
  ({ state with devicePeers := peers }, reply)

/-- `meshtastic_module_environment_telemetry_alloc_reply`: a failed measurement is passed over. -/
def environmentTelemetryAllocReply (outside : ModuleOutside) (nodeId : UInt32) (state : ModuleState mod)
    (req : Packet) : ModuleState mod × Except Errno ModulePacket :=
  let (peers, reply) := telemetryAllocReply (fun variant => variant = .environmentMetrics) outside.decodeTelemetry
    (mod.telemetryReplySuppressSec * MSEC_PER_SEC) outside.environmentAt
    (outside.environment.mapError fun _ => .enoent) nodeId state.environmentPeers req
  ({ state with environmentPeers := peers }, reply)

/-! ## Dispatch -/

structure MeshModule (mod : ModuleKconfig) where
  portnum : UInt32
  allPackets : Bool := false
  onPacket : Option (ModuleState mod → Packet → ModuleState mod × Option ModulePacket) := none
  allocReply : Option (ModuleState mod → Packet → ModuleState mod × Except Errno ModulePacket) := none

/-- The modules that are built in, in the order of the linker section. -/
def moduleSection (outside : ModuleOutside) (nodeId : UInt32) (primaryIndex : UInt8) : List (MeshModule mod) :=
  (if mod.deviceTelemetry then
    [{ portnum := PORT_TELEMETRY, allocReply := some (deviceTelemetryAllocReply outside nodeId) }] else []) ++
  (if mod.environmentTelemetry then
    [{ portnum := PORT_TELEMETRY, allocReply := some (environmentTelemetryAllocReply outside nodeId) }] else []) ++
  (if mod.nodeinfo then
    [{ portnum := PORT_NODEINFO, allPackets := true, onPacket := some (nodeinfoOnPacket outside nodeId primaryIndex),
       allocReply := some (nodeinfoAllocReply outside nodeId) }] else []) ++
  (if mod.gnss then
    [{ portnum := PORT_POSITION, allocReply := some (positionAllocReply outside nodeId) }] else [])

/-- The first loop of `meshtastic_dispatch_modules`, with the packets the handlers send. -/
def callOnPacket : List (MeshModule mod) → ModuleState mod → Packet → ModuleState mod × List ModulePacket
  | [], state, _ => (state, [])
  | m :: rest, state, packet =>
    match m.onPacket with
    | none => callOnPacket rest state packet
    | some onPacket =>
      if m.allPackets = true ∨ m.portnum = packet.portnum then
        let (state, sent) := onPacket state packet
        let (state, later) := callOnPacket rest state packet
        (state, sent.toList ++ later)
      else callOnPacket rest state packet

/-- The second loop: the first answer other than -ENOENT, if any. -/
def callAllocReply : List (MeshModule mod) → ModuleState mod → Packet →
    ModuleState mod × Option (Except Errno ModulePacket)
  | [], state, _ => (state, none)
  | m :: rest, state, packet =>
    match m.allocReply with
    | none => callAllocReply rest state packet
    | some allocReply =>
      if m.portnum ≠ packet.portnum then callAllocReply rest state packet
      else
        match allocReply state packet with
        | (state, .error .enoent) => callAllocReply rest state packet
        | (state, answer) => (state, some answer)

def ModuleState.react (state : ModuleState mod) (outside : ModuleOutside) (nodeId : UInt32) (primaryIndex : UInt8)
    (packet : Packet) : Modules × ModuleState mod :=
  let all : List (MeshModule mod) := moduleSection outside nodeId primaryIndex
  let (state, sent) := callOnPacket all state packet
  let probes := sent.map fun probe => (probe, outside.probe)
  if packet.to_ ≠ nodeId ∨ packet.wantResponse = false then ({ probes := probes }, state)
  else
    match callAllocReply all state packet with
    | (state, some (.ok reply)) => ({ probes := probes, reply := some (reply, outside.reply) }, state)
    | (state, _) => ({ probes := probes }, state)

end

end Meshtastic
