import Meshtastic.Channels

/-! Wire frames of `meshtastic_packet.c`: the 16-byte header, the encrypted Data message, and
the two directions between frames and packets. The protobuf and AES-CTR libraries are the
parameter `Codec`. -/

namespace Meshtastic
open Bytes

def FLAGS_HOP_LIMIT_MASK : UInt8 := 0x07
def FLAGS_WANT_ACK : UInt8 := 0x08
def FLAGS_VIA_MQTT : UInt8 := 0x10
def FLAGS_HOP_START_SHIFT : UInt8 := 5
def FLAGS_HOP_START_MASK : UInt8 := 0x07 <<< FLAGS_HOP_START_SHIFT

/-- nanopb on the messages the stack encodes itself, and the AES-CTR keystream of a key and a
16-byte nonce. `none` is a failed decode. -/
structure Codec where
  encodeData : Data → Octets
  decodeData : Octets → Option Data
  encodeRouting : Routing → Octets
  decodeRouting : Octets → Option Routing
  keystream : Octets → Octets → Nat → UInt8

/-! ## Header -/

/-- `struct meshtastic_wire_header`, in host byte order. -/
structure WireHeader where
  dest : UInt32
  src : UInt32
  id : UInt32
  flags : UInt8
  channel : UInt8
  nextHop : UInt8
  relayNode : UInt8
  deriving DecidableEq

def WireHeader.octets (hdr : WireHeader) : Octets :=
  le32 hdr.dest ++ le32 hdr.src ++ le32 hdr.id ++ [hdr.flags, hdr.channel, hdr.nextHop, hdr.relayNode]

def readHeader : Octets → Option (WireHeader × Octets)
  | d0 :: d1 :: d2 :: d3 :: s0 :: s1 :: s2 :: s3 :: i0 :: i1 :: i2 :: i3 ::
      flags :: channel :: nextHop :: relayNode :: rest =>
    some
      ({ dest := getLe32 d0 d1 d2 d3
         src := getLe32 s0 s1 s2 s3
         id := getLe32 i0 i1 i2 i3
         flags := flags
         channel := channel
         nextHop := nextHop
         relayNode := relayNode }, rest)
  | _ => none

def packFlags (hopLimit hopStart : UInt8) (wantAck viaMqtt : Bool) : UInt8 :=
  let flags := (hopLimit &&& FLAGS_HOP_LIMIT_MASK) ||| ((hopStart &&& 0x07) <<< FLAGS_HOP_START_SHIFT)
  let flags := if wantAck then flags ||| FLAGS_WANT_ACK else flags
  if viaMqtt then flags ||| FLAGS_VIA_MQTT else flags

def flagsHopLimit (flags : UInt8) : UInt8 := flags &&& FLAGS_HOP_LIMIT_MASK
def flagsHopStart (flags : UInt8) : UInt8 := (flags &&& FLAGS_HOP_START_MASK) >>> FLAGS_HOP_START_SHIFT
def flagsWantAck (flags : UInt8) : Bool := flags &&& FLAGS_WANT_ACK != 0
def flagsViaMqtt (flags : UInt8) : Bool := flags &&& FLAGS_VIA_MQTT != 0

def fillPacketFromHeader (hdr : WireHeader) (rssi snr : Int) : Packet :=
  { from_ := hdr.src
    to_ := hdr.dest
    id := hdr.id
    hopLimit := flagsHopLimit hdr.flags
    hopStart := flagsHopStart hdr.flags
    channel := hdr.channel
    channelIndex := CHANNEL_INDEX_INVALID
    nextHop := hdr.nextHop
    relayNode := hdr.relayNode
    wantAck := flagsWantAck hdr.flags
    viaMqtt := flagsViaMqtt hdr.flags
    rssi := rssi
    snr := snr }

/-! ## Payload -/

section
variable (codec : Codec)

/-- PSA imports AES keys of 16, 24 and 32 bytes. -/
def ctrCrypt (key nonce input : Octets) : Except Errno Octets :=
  if key.length = 16 ∨ key.length = 24 ∨ key.length = 32 then
    .ok (xorStream (codec.keystream key nonce) input)
  else .error .eio

def packetNonce (id from_ : UInt32) : Octets :=
  le32 id ++ [0, 0, 0, 0] ++ le32 from_ ++ [0, 0, 0, 0]

def Packet.data (packet : Packet) : Data :=
  { portnum := packet.portnum
    payload := packet.payload
    wantResponse := packet.wantResponse
    dest := packet.dataDest
    source := packet.dataSource
    requestId := packet.requestId
    replyId := packet.replyId }

def Packet.withData (packet : Packet) (data : Data) : Packet :=
  { packet with
    portnum := data.portnum
    payload := data.payload
    dataDest := data.dest
    dataSource := data.source
    requestId := data.requestId
    replyId := data.replyId
    wantResponse := data.wantResponse }

def encodePacketData (packet : Packet) : Except Errno Octets :=
  if packet.payload.length > MAX_PAYLOAD_LEN then .error .einval
  else
    let encoded := codec.encodeData packet.data
    if encoded.length > PAYLOAD_MAX then .error .enomem else .ok encoded

def decryptMeshEncryptedKey (from_ id : UInt32) (enc key : Octets) : Except Errno Data :=
  if enc.length = 0 then .error .einval
  else if enc.length > PAYLOAD_MAX then .error .einval
  else if key.length ≠ 0 ∧ key.length ≠ 16 ∧ key.length ≠ 32 then .error .einval
  else
    match if key.length = 0 then .ok enc else ctrCrypt codec key (packetNonce id from_) enc with
    | .error err => .error err
    | .ok plain =>
      match codec.decodeData plain with
      | none => .error .eio
      | some data => if data.portnum = PORT_UNKNOWN then .error .eio else .ok data

/-- The loop of `try_decrypt_wire_hash` over the slots still to try. -/
def tryDecryptSlots (t : ChannelTable) (wireHash : UInt8) (from_ id : UInt32) (enc : Octets) :
    List SlotIndex → Option (Except Errno (Data × SlotIndex))
  | [] => some (.error .ebadmsg)
  | ch :: rest =>
    if (t.channelSlots ch).role = .disabled then tryDecryptSlots t wireHash from_ id enc rest
    else if channelsDecryptForHash t ch wireHash = false then tryDecryptSlots t wireHash from_ id enc rest
    else
      match channelGetKey t.channelSlots t.primaryIndex ch with
      | none => none
      | some (.error _) => tryDecryptSlots t wireHash from_ id enc rest
      | some (.ok key) =>
        match decryptMeshEncryptedKey codec from_ id enc key with
        | .ok data => some (.ok (data, ch))
        | .error _ => tryDecryptSlots t wireHash from_ id enc rest

def tryDecryptWireHash (t : ChannelTable) (wireHash : UInt8) (from_ id : UInt32) (enc : Octets) :
    Option (Except Errno (Data × SlotIndex)) :=
  tryDecryptSlots codec t wireHash from_ id enc (List.finRange MAX_CHANNELS)

/-! ## Frames -/

/-- `meshtastic_try_decode_wire_packet` with a payload buffer of `payloadLen` bytes. The flag says
whether the packet was decoded. -/
def tryDecodeWirePacket (t : ChannelTable) (mode : RebroadcastMode) (nodedb : NodeDbGet) (buf : Octets)
    (rssi snr : Int) (payloadLen : Nat) : Option (Except Errno (Packet × Bool)) :=
  match readHeader buf with
  | none => some (.error .einval)
  | some (hdr, enc) =>
    let packet := fillPacketFromHeader hdr rssi snr
    if decodeKnownOnly mode nodedb packet.from_ = false then some (.ok (packet, false))
    else
      match tryDecryptWireHash codec t hdr.channel packet.from_ packet.id enc with
      | none => none
      | some (.error _) => some (.ok (packet, false))
      | some (.ok (data, channelIndex)) =>
        if data.payload.length ≠ 0 ∧ data.payload.length > payloadLen then some (.error .enomem)
        else some (.ok ({ packet.withData data with channelIndex := UInt8.ofNat channelIndex.val }, true))

def decodeWirePacket (t : ChannelTable) (mode : RebroadcastMode) (nodedb : NodeDbGet) (buf : Octets)
    (rssi snr : Int) (payloadLen : Nat) : Option (Except Errno Packet) :=
  (tryDecodeWirePacket codec t mode nodedb buf rssi snr payloadLen).map fun result =>
    match result with
    | .error err => .error err
    | .ok (packet, true) => .ok packet
    | .ok (_, false) => .error .ebadmsg

def Packet.header (packet : Packet) (wireHash : UInt8) : WireHeader :=
  { dest := packet.to_
    src := packet.from_
    id := packet.id
    flags := packFlags packet.hopLimit packet.hopStart packet.wantAck packet.viaMqtt
    channel := wireHash
    nextHop := packet.nextHop
    relayNode := packet.relayNode }

def buildWirePacket (t : ChannelTable) (nodedb : NodeDbGet) (packet : Packet) : Option (Except Errno Octets) :=
  match encodePacketData codec packet with
  | .error err => some (.error err)
  | .ok encoded =>
    let chIndex := channelsResolveSendIndex t nodedb packet.to_ packet.channelIndex packet.channel
    match channelGetKey t.channelSlots t.primaryIndex chIndex with
    | none => none
    | some (.error err) => some (.error err)
    | some (.ok key) =>
      let enc := if key.length = 0 then .ok encoded
        else ctrCrypt codec key (packetNonce packet.id packet.from_) encoded
      match enc with
      | .error err => some (.error err)
      | .ok enc => some (.ok ((packet.header (t.channelHashes chIndex)).octets ++ enc))

/-! ## Mesh messages -/

def meshPbTryDecode (t : ChannelTable) (mesh : MeshPacket) : Option (Except Errno MeshPacket) :=
  let decrypt (enc : Octets) : Option (Except Errno MeshPacket) :=
    if enc.length = 0 then some (.error .einval)
    else
      let wireHash := if mesh.channel ≠ 0 then mesh.channel else t.chHash
      match tryDecryptWireHash codec t wireHash mesh.from_ mesh.id enc with
      | none => none
      | some (.error err) => some (.error err)
      | some (.ok (data, chIndex)) =>
        some (.ok { mesh with payload := .decoded data, channel := UInt8.ofNat chIndex.val })
  match mesh.payload with
  | .decoded _ => some (.ok mesh)
  | .encrypted enc => decrypt enc
  | .unset enc => if enc.length = 0 then some (.error .enotsup) else decrypt enc

/-- The transports the stack itself names, and all others. -/
inductive TransportMechanism where
  | internal
  | lora
  | mqtt
  | other (value : Nat)
  deriving DecidableEq

/-- A message with the fields that the stack writes for others to read. -/
structure ReportedMeshPacket extends MeshPacket where
  rxSnr : Int := 0
  rxRssi : Int := 0
  transportMechanism : TransportMechanism := .internal
  deriving DecidableEq

def packetToMeshPb (packet : Packet) : Except Errno ReportedMeshPacket :=
  if packet.payload.length > MAX_PAYLOAD_LEN then .error .einval
  else .ok
    { from_ := packet.from_
      to_ := packet.to_
      channel := if packet.channelIndex ≠ CHANNEL_INDEX_INVALID then packet.channelIndex else 0
      id := packet.id
      rxSnr := packet.snr
      rxRssi := packet.rssi
      hopLimit := packet.hopLimit
      hopStart := packet.hopStart
      wantAck := packet.wantAck
      viaMqtt := packet.viaMqtt
      nextHop := packet.nextHop
      relayNode := packet.relayNode
      transportMechanism := if packet.viaMqtt then .mqtt else .lora
      payload := .decoded packet.data }

/-- The decoded branch of `meshtastic_mesh_pb_to_packet`. -/
def decodedPbToPacket (t : ChannelTable) (mesh : MeshPacket) (data : Data) (payloadLen : Nat) :
    Except Errno Packet :=
  if data.payload.length ≠ 0 ∧ data.payload.length > payloadLen then .error .enomem
  else .ok (Packet.withData
    { from_ := mesh.from_
      to_ := mesh.to_
      id := mesh.id
      hopLimit := mesh.hopLimit
      hopStart := mesh.hopStart
      channel := if mesh.channel.toNat < MAX_CHANNELS then channelsGetHash t mesh.channel
        else if mesh.channel ≠ 0 then mesh.channel else t.chHash
      channelIndex := if mesh.channel.toNat < MAX_CHANNELS then mesh.channel else CHANNEL_INDEX_INVALID
      nextHop := mesh.nextHop
      relayNode := mesh.relayNode
      wantAck := mesh.wantAck
      viaMqtt := mesh.viaMqtt } data)

def meshPbToPacket (t : ChannelTable) (mesh : MeshPacket) (payloadLen : Nat) :
    Option (Except Errno Packet) :=
  match mesh.payload with
  | .decoded data => some (decodedPbToPacket t mesh data payloadLen)
  | _ =>
    match meshPbTryDecode codec t mesh with
    | none => none
    | some (.error err) => some (.error err)
    | some (.ok work) =>
      match work.payload with
      | .decoded data => some (decodedPbToPacket t work data payloadLen)
      | _ => some (.error .enotsup)

end

end Meshtastic
