import Meshtastic.MqttBridge
import Meshtastic.NewEffects

/-! What becomes of the Data message of a phone on its way over `struct meshtastic_packet` and the air to the
phone of another node. -/

namespace Meshtastic
open Bytes

/-! ## Over the packet structure -/

def Data.carried (data : Data) : Data := { data with emoji := 0, bitfield := none }

theorem Data.carried_eq_iff (data : Data) : data.carried = data ↔ data.emoji = 0 ∧ data.bitfield = none := by
  constructor
  · intro same
    exact ⟨(congrArg Data.emoji same).symm, (congrArg Data.bitfield same).symm⟩
  · intro unset
    obtain ⟨emoji, bitfield⟩ := unset
    cases data
    subst emoji bitfield
    rfl

theorem meshPbPacket_data (mesh : MeshPacket) (data : Data) : (meshPbPacket mesh data).data = data.carried := rfl

theorem heardPacket_data (hdr : WireHeader) (data : Data) (ch : SlotIndex) (rssi snr : Int) :
    (heardPacket hdr data ch rssi snr).data = data.carried := rfl

section
variable {cfg : Kconfig} {codec : Codec}

/-! ## Sending -/

theorem sendPacket_sent {node next : Node cfg} {packet : Packet} {wait : Wait} {answer : Answer}
    (sent : sendPacket codec answer node packet wait = some (none, next)) :
    ∃ id wire newer, buildWirePacket codec node.table answer.nodedb (node.fillPacket packet id) = some (.ok wire) ∧
      next.log = newer ++ node.log ∧ ∀ frame, ⟨node.nodeId, .handed frame⟩ ∈ newer ↔ frame = wire := by
  obtain ⟨wire, reports, made, grown, quiet⟩ := sendPacket_transmits sent
  refine ⟨_, wire, _, made, grown, ?_⟩
  intro frame
  have injective : Function.Injective (Record.mk node.nodeId) := fun _ _ same => congrArg Record.effect same
  rw [List.mem_map_of_injective injective]
  exact handed_mem_iff quiet _ _ wire frame

theorem fillPacket_index (node : Node cfg) {mesh : MeshPacket} {slot : SlotIndex}
    (channel : mesh.channel = UInt8.ofNat slot.val) (data : Data) (id : UInt32) :
    (node.fillPacket (meshPbPacket mesh data) id).channelIndex = UInt8.ofNat slot.val := by
  have index : (meshPbPacket mesh data).channelIndex = UInt8.ofNat slot.val := by
    simp only [meshPbPacket, channel, slot_toNat, slot.isLt, if_true]
  rw [Node.fillPacket, index, if_neg (slot_ne_invalid slot)]

theorem sendMeshPb_decoded {node next : Node cfg} {mesh : MeshPacket} {data : Data} {slot : SlotIndex} {answer : Answer}
    (lawful : codec.Lawful) (payload : mesh.payload = .decoded data) (port : data.portnum ≠ PORT_UNKNOWN)
    (channel : mesh.channel = UInt8.ofNat slot.val) (enabled : (node.table.channelSlots slot).role ≠ .disabled)
    (sent : sendMeshPb codec answer node mesh = some (none, next)) :
    ∃ newer wire key hdr enc, next.log = newer ++ node.log ∧
      (∀ frame, ⟨node.nodeId, .handed frame⟩ ∈ newer ↔ frame = wire) ∧
      channelGetKey node.table.channelSlots node.table.primaryIndex slot = some (.ok key) ∧
      readHeader wire = some (hdr, enc) ∧ hdr.channel = node.table.channelHashes slot ∧
      decryptMeshEncryptedKey codec hdr.src hdr.id enc key = .ok data.carried ∧
      data.payload.length ≤ MAX_PAYLOAD_LEN := by
  rw [sendMeshPb, payload] at sent
  obtain ⟨id, wire, newer, built, log, handed⟩ := sendPacket_sent sent
  obtain ⟨short, fits, key, lookup, size, same⟩ := buildWirePacket_eq_ok built
  have index := fillPacket_index node channel data id
  have carried : (node.fillPacket (meshPbPacket mesh data) id).data = data.carried :=
    meshPbPacket_data mesh data
  have chosen (dest : UInt32) (hash : UInt8) :
      channelsResolveSendIndex node.table answer.nodedb dest (UInt8.ofNat slot.val) hash = slot := by
    rw [channelsResolveSendIndex, enabledSlot_ofNat enabled]
  rw [index, chosen] at lookup same
  rw [carried] at fits same
  have small : data.carried.payload.length ≤ MAX_PAYLOAD_LEN := short
  generalize node.fillPacket (meshPbPacket mesh data) id = local_ at same
  have opens := (decrypt_cipher lawful local_.from_ local_.id small fits size).1 port
  have parsed : readHeader wire = some (local_.header (node.table.channelHashes slot),
      cipher codec key (packetNonce local_.id local_.from_) (codec.encodeData data.carried)) := by
    rw [same, readHeader_octets]
  exact ⟨newer, wire, key, _, _, log, handed, lookup, parsed, rfl, opens, small⟩

end

/-! ## Receiving -/

/-- A receiver opens a frame on channel `c`: `got` is the message it finds and `heard` the packet it goes on with. -/
def Receives (codec : Codec) (t : ChannelTable) (mode : RebroadcastMode) (nodedb : NodeDbGet) (wire : Octets)
    (c : SlotIndex) (got : Data) (heard : Packet) : Prop :=
  ∃ hdr enc rssi snr, readHeader wire = some (hdr, enc) ∧
    tryDecryptWireHash codec t hdr.channel hdr.src hdr.id enc = some (.ok (got, c)) ∧
    tryDecodeWirePacket codec t mode nodedb wire rssi snr MAX_PAYLOAD_LEN = some (.ok (heard, true))

section
variable {codec : Codec} {t : ChannelTable} {mode : RebroadcastMode} {nodedb : NodeDbGet} {wire enc key : Octets}
variable {hdr : WireHeader} {c : SlotIndex} {got data : Data} {heard : Packet}

/-- A receiver that opens a frame with the sender's key finds what the sender put there, and hands it on. -/
theorem Receives.of_key (parsed : readHeader wire = some (hdr, enc))
    (opens : decryptMeshEncryptedKey codec hdr.src hdr.id enc key = .ok data)
    (small : data.payload.length ≤ MAX_PAYLOAD_LEN)
    (lookup : channelGetKey t.channelSlots t.primaryIndex c = some (.ok key))
    (receives : Receives codec t mode nodedb wire c got heard) :
    got = data ∧ heard.data = data.carried ∧ heard.payload.length ≤ MAX_PAYLOAD_LEN := by
  obtain ⟨hdr', enc', rssi, snr, parsed', found, decoded⟩ := receives
  rw [parsed] at parsed'
  cases parsed'
  obtain ⟨key', lookup', -, decrypts⟩ := tryDecryptSlots_found found
  rw [lookup] at lookup'
  cases lookup'
  rw [opens] at decrypts
  cases decrypts
  rcases tryDecodeWirePacket_cases parsed decoded with ⟨passed, -⟩ | ⟨data', c', -, found', ⟨-, same⟩ | ⟨-, failed⟩⟩
  · cases passed
  · rw [found] at found'
    cases found'
    cases same
    exact ⟨rfl, heardPacket_data hdr got c rssi snr, small⟩
  · cases failed

theorem packetToMeshPb_payload (small : heard.payload.length ≤ MAX_PAYLOAD_LEN) :
    (∃ phone, packetToMeshPb heard = .ok phone ∧ phone.payload = .decoded data) ↔ heard.data = data := by
  unfold packetToMeshPb
  rw [if_neg (Nat.not_lt.mpr small)]
  constructor
  · intro told
    obtain ⟨phone, made, payload⟩ := told
    cases made
    exact PayloadVariant.decoded.inj payload
  · intro same
    exact ⟨_, rfl, congrArg PayloadVariant.decoded same⟩

theorem receives_of_channel (bounded : codec.Bounded) (terminates : t.Terminates)
    (parsed : readHeader wire = some (hdr, enc))
    (opens : decryptMeshEncryptedKey codec hdr.src hdr.id enc key = .ok data)
    (lookup : channelGetKey t.channelSlots t.primaryIndex c = some (.ok key)) (hash : t.channelHashes c = hdr.channel)
    (admitted : decodeKnownOnly mode nodedb hdr.src = true) :
    ∃ c' got heard, t.channelHashes c' = hdr.channel ∧ Receives codec t mode nodedb wire c' got heard := by
  rcases tryDecryptWireHash_ends bounded terminates hdr.channel hdr.src hdr.id enc with
    ⟨got, c', found, -, hash', small⟩ | ⟨-, closed⟩
  · have decoded : tryDecodeWirePacket codec t mode nodedb wire 0 0 MAX_PAYLOAD_LEN = _ :=
      tryDecodeWirePacket_found parsed admitted found small
    exact ⟨c', got, _, hash', hdr, enc, 0, 0, parsed, found, decoded⟩
  · exact absurd ⟨c, .of_key lookup hash opens⟩ closed

end

/-- The message of a phone reaches the other phones of its channel unaltered exactly when it sets neither of the
fields that `struct meshtastic_packet` has no place for. The nodes of the channel do open the frame. -/
theorem phone_data_unaltered_iff (cfg : Kconfig) (codec : Codec) (lawful : codec.Lawful) (bounded : codec.Bounded)
    (sender next : Node cfg) (answer : Answer) (mesh : MeshPacket) (data : Data) (slot : SlotIndex)
    (payload : mesh.payload = .decoded data) (port : data.portnum ≠ PORT_UNKNOWN)
    (channel : mesh.channel = UInt8.ofNat slot.val) (enabled : (sender.table.channelSlots slot).role ≠ .disabled)
    (sent : sendMeshPb codec answer sender mesh = some (none, next)) :
    ∃ newer wire key hdr enc, next.log = newer ++ sender.log ∧
      (∀ frame, ⟨sender.nodeId, .handed frame⟩ ∈ newer ↔ frame = wire) ∧
      channelGetKey sender.table.channelSlots sender.table.primaryIndex slot = some (.ok key) ∧
      readHeader wire = some (hdr, enc) ∧
      ∀ (t : ChannelTable) (mode : RebroadcastMode) (nodedb : NodeDbGet) (c : SlotIndex),
        channelGetKey t.channelSlots t.primaryIndex c = some (.ok key) →
        (∀ got heard, Receives codec t mode nodedb wire c got heard →
          ((got = data ∧ ∃ phone, packetToMeshPb heard = .ok phone ∧ phone.payload = .decoded data) ↔
            data.emoji = 0 ∧ data.bitfield = none)) ∧
        (t.Terminates → t.channelHashes c = sender.table.channelHashes slot →
          decodeKnownOnly mode nodedb hdr.src = true →
          ∃ c' got heard, t.channelHashes c' = t.channelHashes c ∧ Receives codec t mode nodedb wire c' got heard) := by
  obtain ⟨newer, wire, key, hdr, enc, log, handed, held, parsed, hash, opens, small⟩ :=
    sendMeshPb_decoded lawful payload port channel enabled sent
  refine ⟨newer, wire, key, hdr, enc, log, handed, held, parsed, ?_⟩
  intro t mode nodedb c lookup
  constructor
  · intro got heard receives
    obtain ⟨found, told, fits⟩ := receives.of_key parsed opens small lookup
    rw [packetToMeshPb_payload fits, found, told, ← data.carried_eq_iff]
    exact and_self_iff
  · intro terminates same admitted
    rw [same, ← hash]
    exact receives_of_channel bounded terminates parsed opens lookup (same.trans hash.symm) admitted

def heart (emoji : UInt32) : Data :=
  { portnum := PORT_TEXT_MESSAGE, payload := [0xe2, 0x9d, 0xa4], replyId := 5, emoji := emoji }

def heartMessage (emoji : UInt32) : MeshPacket :=
  { payload := .decoded (heart emoji), to_ := NODE_BROADCAST, id := 7, hopLimit := 3, hopStart := 3, channel := 1 }

def heartNode : Node smallKconfig := { listeningNode .all with table := clearTable }

def heartFrame : Octets :=
  [0xff, 0xff, 0xff, 0xff, 0x11, 0, 0, 0, 0x07, 0, 0, 0, 0x63, 0, 0, 0,
    0x08, 0x01, 0x12, 0x03, 0xe2, 0x9d, 0xa4, 0x3d, 0x05, 0, 0, 0]

theorem phone_data_unaltered_heart :
    ∃ next, sendMeshPb (dataCodec fun _ _ _ => 0) plainAnswer heartNode (heartMessage 0) = some (none, next) ∧
      ⟨0x11, .handed heartFrame⟩ ∈ next.log ∧
      ∃ heard phone, Receives (dataCodec fun _ _ _ => 0) clearTable .all (fun _ => none) heartFrame 1 (heart 0) heard ∧
        packetToMeshPb heard = .ok phone ∧ phone.payload = .decoded (heart 0) := by
  refine ⟨_, rfl, by decide, ?_⟩
  have heard : ∃ heard,
      Receives (dataCodec fun _ _ _ => 0) clearTable .all (fun _ => none) heartFrame 1 (heart 0) heard :=
    ⟨_, _, _, 0, 0, rfl, rfl, rfl⟩
  obtain ⟨heard, receives⟩ := heard
  obtain ⟨newer, wire, key, hdr, enc, log, handed, lookup, parsed, arrives⟩ := phone_data_unaltered_iff smallKconfig
    (dataCodec fun _ _ _ => 0) (dataCodec_lawful _) (dataCodec_bounded _) heartNode _ plainAnswer (heartMessage 0)
    (heart 0) 1 rfl (by decide) rfl (by decide) rfl
  have empty : heartNode.log = [] := rfl
  rw [empty, List.append_nil] at log
  have same : heartFrame = wire := by
    apply (handed heartFrame).mp
    rw [← log]
    decide
  subst same
  have unaltered := (arrives clearTable .all (fun _ => none) 1 lookup).1 (heart 0) heard receives
  obtain ⟨-, phone, made, payload⟩ := unaltered.mpr ⟨rfl, rfl⟩
  exact ⟨heard, phone, receives, made, payload⟩

/-- A node of the same channel opens the frame of a reaction, but what it and its phone get is a text. -/
theorem phone_reaction_altered :
    ∃ next, sendMeshPb (dataCodec fun _ _ _ => 0) plainAnswer heartNode (heartMessage 1) = some (none, next) ∧
      ⟨0x11, .handed heartFrame⟩ ∈ next.log ∧
      ∃ got heard phone, Receives (dataCodec fun _ _ _ => 0) clearTable .all (fun _ => none) heartFrame 1 got heard ∧
        packetToMeshPb heard = .ok phone ∧ got ≠ heart 1 ∧ phone.payload ≠ .decoded (heart 1) := by
  exact ⟨_, rfl, by decide, _, _, _, ⟨_, _, 0, 0, rfl, rfl, rfl⟩, rfl, by decide, by decide⟩

end Meshtastic
