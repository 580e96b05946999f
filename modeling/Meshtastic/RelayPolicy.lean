import Meshtastic.Frames
import Meshtastic.NodeEffects

/-! Which frames a node relays, beside the rules that `config.proto` states for the rebroadcast modes. -/

namespace Meshtastic
open Bytes

section
variable {cfg : Kconfig} {codec : Codec}

/-- A broadcast without an id, which no receiver could tell from a duplicate. -/
def unnamedBroadcast (hdr : WireHeader) : Bool := hdr.dest = NODE_BROADCAST && hdr.id = 0

def ignoredFromMqtt (cfg : Kconfig) (hdr : WireHeader) : Bool := cfg.mqttIgnoreMqtt && flagsViaMqtt hdr.flags

theorem decryptMeshEncryptedKey_eq_ok {from_ id : UInt32} {enc key : Octets} {data : Data}
    (decrypts : decryptMeshEncryptedKey codec from_ id enc key = .ok data) :
    ∃ plain, codec.decodeData plain = some data ∧ data.portnum ≠ PORT_UNKNOWN := by
  unfold decryptMeshEncryptedKey at decrypts
  split_ifs at decrypts
  all_goals
    split at decrypts
    next => cases decrypts
    next plain _ =>
      split at decrypts
      next => cases decrypts
      next found decoded =>
        split_ifs at decrypts with unknown
        cases decrypts
        exact ⟨plain, decoded, unknown⟩

theorem tryDecryptSlots_bounded (bounded : codec.Bounded) {t : ChannelTable} {wireHash : UInt8} {from_ id : UInt32}
    {enc : Octets} {slots : List SlotIndex} {data : Data} {ch : SlotIndex}
    (searched : tryDecryptSlots codec t wireHash from_ id enc slots = some (.ok (data, ch))) :
    data.payload.length ≤ MAX_PAYLOAD_LEN := by
  induction slots with
  | nil => cases searched
  | cons first rest ih =>
    rcases tryDecryptSlots_cons searched with ⟨later, -⟩ | ⟨key, found, -, -, decrypts, same⟩
    · exact ih later
    · cases same
      obtain ⟨plain, decoded, -⟩ := decryptMeshEncryptedKey_eq_ok decrypts
      exact bounded plain data decoded

theorem tryDecodeWirePacket_accepts (bounded : codec.Bounded) {t : ChannelTable} {mode : RebroadcastMode}
    {nodedb : NodeDbGet} {frame enc : Octets} {rssi snr : Int} {hdr : WireHeader}
    {result : Except Errno (Packet × Bool)} (parsed : readHeader frame = some (hdr, enc))
    (decodes : tryDecodeWirePacket codec t mode nodedb frame rssi snr MAX_PAYLOAD_LEN = some result) :
    ∃ packet decoded, result = .ok (packet, decoded) := by
  rcases tryDecodeWirePacket_cases parsed decodes with ⟨passed, -⟩ | ⟨data, ch, -, searched, ⟨-, heard⟩ | ⟨long, -⟩⟩
  · exact ⟨_, _, passed⟩
  · exact ⟨_, _, heard⟩
  · exact absurd long (Nat.not_lt.mpr (tryDecryptSlots_bounded bounded searched))

theorem relays_iff (bounded : codec.Bounded) {board : Board} {node next : Node cfg} {frame enc : Octets}
    {hdr : WireHeader} {rssi snr : Int} {around : Surroundings} {result : Option Errno}
    (taken : node.step codec board (.receive frame rssi snr around) = some next)
    (parsed : readHeader frame = some (hdr, enc)) (short : frame.length ≤ PKT_MAX)
    (fresh : node.dupCheck hdr.src hdr.id = false) (src : hdr.src ≠ node.nodeId) (dest : hdr.dest ≠ node.nodeId)
    (hops : flagsHopLimit hdr.flags ≠ 0) (radio : around.relay.radio = .queued result) :
    node.relays codec (.receive frame rssi snr around) =
      if ignoredFromMqtt cfg hdr = false ∧ unnamedBroadcast hdr = false ∧
          isRebroadcaster node.deviceRole node.rebroadcastMode = true ∧ node.rebroadcastMode ≠ .localOnly then
        some (relayFrame frame hdr.flags (flagsHopLimit hdr.flags))
      else none := by
  by_cases ignored : cfg.mqttIgnoreMqtt = true ∧ flagsViaMqtt hdr.flags = true
  · have refused : node.accepts (.receive frame rssi snr around) = none := by
      simp only [Node.accepts, parsed, if_pos ignored]
    simp [Node.relays, refused, ignoredFromMqtt, ignored]
  have accepted : node.accepts (.receive frame rssi snr around) = some (hdr.src, hdr.id) := by
    simp [Node.accepts, parsed, if_neg ignored, fresh]
  have heeded : ignoredFromMqtt cfg hdr = false := by simpa [ignoredFromMqtt] using ignored
  have nonempty : frame.length ≠ 0 := by
    intro empty
    rw [List.length_eq_zero_iff.mp empty] at parsed
    contradiction
  have processed : processLoraRx codec around node frame rssi snr = some next := taken
  unfold processLoraRx at processed
  simp only [parsed, if_neg ignored, fresh, Bool.false_eq_true, if_false] at processed
  rw [(node.alike_dupAdd hdr.src hdr.id).tryDecode] at processed
  cases decodes : node.tryDecode codec around.nodedb frame rssi snr with
  | none =>
    rw [decodes] at processed
    contradiction
  | some outcome =>
    obtain ⟨packet, decoded, same⟩ := tryDecodeWirePacket_accepts bounded parsed decodes
    subst same
    obtain ⟨-, -, id, -⟩ := tryDecodeWirePacket_header parsed decodes
    simp only [Node.relays, accepted, parsed, decodes, node.rebroadcasts_eq, radio]
    have same : node.Relayable hdr frame packet ↔ ignoredFromMqtt cfg hdr = false ∧ unnamedBroadcast hdr = false ∧
        isRebroadcaster node.deviceRole node.rebroadcastMode = true ∧ node.rebroadcastMode ≠ .localOnly := by
      unfold Node.Relayable unnamedBroadcast
      rw [id]
      simp only [Bool.and_eq_false_imp, decide_eq_true_eq, decide_eq_false_iff_not, not_and]
      constructor
      · intro may
        obtain ⟨forwards, mode, -, -, -, named, -, -⟩ := may
        exact ⟨heeded, named, forwards, mode⟩
      · intro allowed
        obtain ⟨-, named, forwards, mode⟩ := allowed
        exact ⟨forwards, mode, src, dest, hops, named, nonempty, short⟩
    simp only [same]

end

def passingHeader : WireHeader :=
  { dest := 0x44, src := 0x33, id := 9, flags := 0x63, channel := 0x08, nextHop := 0, relayNode := 0 }

def listeningNode (mode : RebroadcastMode) : Node smallKconfig :=
  { Node.powerOn smallKconfig plainTable with nodeId := 0x11, initialized := true, rebroadcastMode := mode }

end Meshtastic
