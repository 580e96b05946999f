import Meshtastic.PacketRoundTrip
import Meshtastic.Router

/-! The frame of a packet on its way through the mesh. Relays rewrite its flags and nothing else,
so every node with the same channel table that decodes it gets the packet's own Data. -/

namespace Meshtastic
open Bytes

/-- The octets are a frame of the packet under the key of some slot, with any flags. -/
def FrameOf (codec : Codec) (t : ChannelTable) (packet : Packet) (key wire : Octets) : Prop :=
  ∃ slot flags, channelGetKey t.channelSlots t.primaryIndex slot = some (.ok key) ∧
    (key.length = 0 ∨ key.length = 16 ∨ key.length = 32) ∧
    packet.payload.length ≤ MAX_PAYLOAD_LEN ∧ (codec.encodeData packet.data).length ≤ PAYLOAD_MAX ∧
    wire = WireHeader.octets { packet.header (t.channelHashes slot) with flags := flags } ++
      cipher codec key (packetNonce packet.id packet.from_) (codec.encodeData packet.data)

/-- Slots with the same hash have the same key, so that the hash of a frame names its key. -/
def ChannelTable.KeyedByHash (t : ChannelTable) : Prop :=
  ∀ i j key key', channelGetKey t.channelSlots t.primaryIndex i = some (.ok key) →
    channelGetKey t.channelSlots t.primaryIndex j = some (.ok key') →
    t.channelHashes i = t.channelHashes j → key = key'

/-- The same of two tables: what one node sends under a hash, the other decrypts under no other key. -/
def ChannelTable.KeyedWith (t other : ChannelTable) : Prop :=
  ∀ i j key key', channelGetKey t.channelSlots t.primaryIndex i = some (.ok key) →
    channelGetKey other.channelSlots other.primaryIndex j = some (.ok key') →
    t.channelHashes i = other.channelHashes j → key = key'

/-- A hash names one key in all of these tables. -/
def KeyedTogether (tables : Set ChannelTable) : Prop := ∀ t ∈ tables, ∀ other ∈ tables, t.KeyedWith other

def ChannelTable.keyAt (t : ChannelTable) (i : SlotIndex) : Option Octets :=
  match channelGetKey t.channelSlots t.primaryIndex i with
  | some (.ok key) => some key
  | _ => none

theorem ChannelTable.keyAt_eq_some {t : ChannelTable} {i : SlotIndex} {key : Octets} :
    t.keyAt i = some key ↔ channelGetKey t.channelSlots t.primaryIndex i = some (.ok key) := by
  unfold keyAt
  split
  next found lookup => simp [lookup]
  next other => exact ⟨fun none => by contradiction, fun found => False.elim (other key found)⟩

instance (t other : ChannelTable) : Decidable (t.KeyedWith other) :=
  decidable_of_iff (∀ i j, t.channelHashes i = other.channelHashes j →
      ∀ key ∈ t.keyAt i, ∀ key' ∈ other.keyAt j, key = key')
    ⟨fun all i j key key' found found' same =>
      all i j same key (ChannelTable.keyAt_eq_some.mpr found) key' (ChannelTable.keyAt_eq_some.mpr found'),
    fun keyed i j same key found key' found' =>
      keyed i j key key' (ChannelTable.keyAt_eq_some.mp found) (ChannelTable.keyAt_eq_some.mp found') same⟩

instance (t : ChannelTable) : Decidable t.KeyedByHash := inferInstanceAs (Decidable (t.KeyedWith t))

section
variable {codec : Codec} {t : ChannelTable}

theorem buildWirePacket_wireKey {nodedb : NodeDbGet} {packet : Packet} {wire : Octets}
    (made : buildWirePacket codec t nodedb packet = some (.ok wire)) :
    FrameOf codec t packet (wireKey t nodedb packet) wire := by
  obtain ⟨short, fits, key, lookup, size, same⟩ := buildWirePacket_eq_ok made
  have chosen : wireKey t nodedb packet = key := by
    unfold wireKey
    simp only [lookup]
  rw [chosen]
  exact ⟨_, _, lookup, size, short, fits, same⟩

theorem FrameOf.header {packet : Packet} {key wire : Octets} (frame : FrameOf codec t packet key wire) :
    ∃ hdr enc, readHeader wire = some (hdr, enc) ∧ hdr.src = packet.from_ ∧ hdr.id = packet.id ∧
      hdr.dest = packet.to_ := by
  obtain ⟨slot, flags, -, -, -, -, same⟩ := frame
  rw [same]
  exact ⟨_, _, readHeader_octets _ _, rfl, rfl, rfl⟩

theorem FrameOf.relay {packet : Packet} {key wire : Octets} (frame : FrameOf codec t packet key wire)
    (flags hopLimit : UInt8) : FrameOf codec t packet key (relayFrame wire flags hopLimit) := by
  obtain ⟨slot, before, lookup, size, short, fits, same⟩ := frame
  refine ⟨slot, relayFlags flags hopLimit, lookup, size, short, fits, ?_⟩
  rw [same]
  rfl

/-! ## Decoding -/

/-- One turn of the search: the slot is passed over, for one of four reasons, or decrypts. -/
theorem tryDecryptSlots_cons {wireHash : UInt8} {from_ id : UInt32} {enc : Octets} {ch : SlotIndex}
    {rest : List SlotIndex} {result : Except Errno (Data × SlotIndex)}
    (searched : tryDecryptSlots codec t wireHash from_ id enc (ch :: rest) = some result) :
    (tryDecryptSlots codec t wireHash from_ id enc rest = some result ∧
      ((t.channelSlots ch).role = .disabled ∨ t.channelHashes ch ≠ wireHash ∨
        (∃ err, channelGetKey t.channelSlots t.primaryIndex ch = some (.error err)) ∨
        ∃ key err, channelGetKey t.channelSlots t.primaryIndex ch = some (.ok key) ∧
          t.channelHashes ch = wireHash ∧ decryptMeshEncryptedKey codec from_ id enc key = .error err)) ∨
    ∃ key data, channelGetKey t.channelSlots t.primaryIndex ch = some (.ok key) ∧
      t.channelHashes ch = wireHash ∧ decryptMeshEncryptedKey codec from_ id enc key = .ok data ∧
      result = .ok (data, ch) := by
  unfold tryDecryptSlots at searched
  split_ifs at searched with disabled other
  · exact .inl ⟨searched, .inl disabled⟩
  · have different : t.channelHashes ch ≠ wireHash := by simpa [channelsDecryptForHash] using other
    exact .inl ⟨searched, .inr (.inl different)⟩
  · have hash : t.channelHashes ch = wireHash := by simpa [channelsDecryptForHash] using other
    split at searched
    next => contradiction
    next err lookup => exact .inl ⟨searched, .inr (.inr (.inl ⟨err, lookup⟩))⟩
    next key lookup =>
      split at searched
      next data decrypts => exact .inr ⟨key, data, lookup, hash, decrypts, (Option.some.inj searched).symm⟩
      next err fails => exact .inl ⟨searched, .inr (.inr (.inr ⟨key, err, lookup, hash, fails⟩))⟩

theorem tryDecryptSlots_found {wireHash : UInt8} {from_ id : UInt32} {enc : Octets} {data : Data} {ch : SlotIndex}
    {slots : List SlotIndex} (searched : tryDecryptSlots codec t wireHash from_ id enc slots = some (.ok (data, ch))) :
    ∃ key, channelGetKey t.channelSlots t.primaryIndex ch = some (.ok key) ∧ t.channelHashes ch = wireHash ∧
      decryptMeshEncryptedKey codec from_ id enc key = .ok data := by
  induction slots with
  | nil => cases searched
  | cons first rest ih =>
    rcases tryDecryptSlots_cons searched with ⟨later, -⟩ | ⟨key, found, lookup, hash, decrypts, same⟩
    · exact ih later
    · cases same
      exact ⟨key, lookup, hash, decrypts⟩

/-- Where the hash of a frame names its key, the search finds nothing but the Data of the frame's packet. -/
theorem tryDecryptSlots_opened (lawful : codec.Lawful) {other : ChannelTable} (keyed : other.KeyedWith t)
    {data found : Data} {key : Octets} {slot ch : SlotIndex} {from_ id : UInt32}
    (lookup : channelGetKey other.channelSlots other.primaryIndex slot = some (.ok key))
    (size : key.length = 0 ∨ key.length = 16 ∨ key.length = 32)
    (short : data.payload.length ≤ MAX_PAYLOAD_LEN) (fits : (codec.encodeData data).length ≤ PAYLOAD_MAX)
    {slots : List SlotIndex}
    (searched : tryDecryptSlots codec t (other.channelHashes slot) from_ id
      (cipher codec key (packetNonce id from_) (codec.encodeData data)) slots = some (.ok (found, ch))) :
    found = data ∧ data.portnum ≠ PORT_UNKNOWN := by
  obtain ⟨named, unnamed⟩ := decrypt_cipher lawful from_ id short fits size
  obtain ⟨key', keyOf, hash, decrypts⟩ := tryDecryptSlots_found searched
  have agree := keyed slot ch key key' lookup keyOf hash.symm
  subst agree
  have port : data.portnum ≠ PORT_UNKNOWN := by
    intro unknown
    obtain ⟨err, fails⟩ := unnamed unknown
    rw [fails] at decrypts
    contradiction
  rw [named port] at decrypts
  cases decrypts
  exact ⟨rfl, port⟩

/-- The search for a slot finds the Data of the frame's packet, or nothing when the packet names no
port or its slot is not among those tried. -/
theorem tryDecryptSlots_cipher (lawful : codec.Lawful) (keyed : t.KeyedByHash) {data : Data} {key : Octets}
    {slot : SlotIndex} {from_ id : UInt32}
    (lookup : channelGetKey t.channelSlots t.primaryIndex slot = some (.ok key))
    (size : key.length = 0 ∨ key.length = 16 ∨ key.length = 32)
    (short : data.payload.length ≤ MAX_PAYLOAD_LEN) (fits : (codec.encodeData data).length ≤ PAYLOAD_MAX)
    (slots : List SlotIndex) {result : Except Errno (Data × SlotIndex)}
    (searched : tryDecryptSlots codec t (t.channelHashes slot) from_ id
      (cipher codec key (packetNonce id from_) (codec.encodeData data)) slots = some result) :
    (∀ found ch, result = .ok (found, ch) → found = data ∧ data.portnum ≠ PORT_UNKNOWN) ∧
    (∀ err, result = .error err → data.portnum = PORT_UNKNOWN ∨ slot ∉ slots) := by
  refine ⟨?_, ?_⟩
  · intro found ch same
    subst same
    exact tryDecryptSlots_opened lawful keyed lookup size short fits searched
  intro err failed
  subst failed
  obtain ⟨named, -⟩ := decrypt_cipher lawful from_ id short fits size
  induction slots with
  | nil => exact Or.inr List.not_mem_nil
  | cons ch rest ih =>
    rcases tryDecryptSlots_cons searched with ⟨later, passed⟩ | ⟨key', found, keyOf, hash, decrypts, same⟩
    · -- a slot that is passed over is not the slot of the frame, unless no slot can decrypt it
      have elsewhere : slot = ch → data.portnum = PORT_UNKNOWN := by
        intro here
        subst here
        rcases passed with disabled | different | ⟨err, refused⟩ | ⟨key', err, keyOf, -, fails⟩
        · exact False.elim ((channelGetKey_eq_ok lookup).1 (.inr disabled))
        · contradiction
        · rw [lookup] at refused
          exact absurd refused (by simp)
        · rw [lookup] at keyOf
          cases keyOf
          by_contra port
          rw [named port] at fails
          contradiction
      rcases ih later with port | absent
      · exact Or.inl port
      · by_cases here : slot = ch
        · exact Or.inl (elsewhere here)
        · exact Or.inr (by simp [here, absent])
    · contradiction

/-- Decoding a frame of a packet never fails, gives the packet's own Data when it succeeds, and
succeeds whenever policy admits the source and the packet names a port. -/
theorem tryDecodeWirePacket_frameOf (lawful : codec.Lawful) (keyed : t.KeyedByHash) {sent : Packet}
    {key frame : Octets} (framed : FrameOf codec t sent key frame) {mode : RebroadcastMode} {nodedb : NodeDbGet}
    {rssi snr : Int} {result : Except Errno (Packet × Bool)}
    (decodes : tryDecodeWirePacket codec t mode nodedb frame rssi snr MAX_PAYLOAD_LEN = some result) :
    ∃ packet decoded, result = .ok (packet, decoded) ∧
      packet.from_ = sent.from_ ∧ packet.to_ = sent.to_ ∧ packet.id = sent.id ∧
      (decoded = true → packet.data = sent.data ∧ sent.portnum ≠ PORT_UNKNOWN) ∧
      (decoded = false → decodeKnownOnly mode nodedb sent.from_ = false ∨ sent.portnum = PORT_UNKNOWN) := by
  obtain ⟨slot, flags, lookup, size, short, fits, same⟩ := framed
  rw [same] at decodes
  rcases tryDecodeWirePacket_cases (readHeader_octets _ _) decodes with
    ⟨passed, hidden⟩ | ⟨data, ch, -, searched, outcome⟩
  · refine ⟨_, _, passed, rfl, rfl, rfl, fun same => by contradiction, fun _ => ?_⟩
    rcases hidden with stranger | ⟨err, searched⟩
    · exact Or.inl stranger
    rcases (tryDecryptSlots_cipher lawful keyed lookup size short fits _ searched).2 err rfl with port | absent
    · exact Or.inr port
    · exact False.elim (absent (List.mem_finRange slot))
  · obtain ⟨found, port⟩ := (tryDecryptSlots_cipher lawful keyed lookup size short fits _ searched).1 data ch rfl
    subst found
    rcases outcome with ⟨-, decoded⟩ | ⟨long, -⟩
    · exact ⟨_, _, decoded, rfl, rfl, rfl, fun _ => ⟨rfl, port⟩, fun same => by contradiction⟩
    · exact absurd long (Nat.not_lt.mpr short)

theorem FrameOf.decoded_data (lawful : codec.Lawful) {other : ChannelTable} (keyed : t.KeyedWith other)
    {sent packet : Packet} {key frame : Octets} (framed : FrameOf codec t sent key frame) {mode : RebroadcastMode}
    {nodedb : NodeDbGet} {rssi snr : Int}
    (decodes : tryDecodeWirePacket codec other mode nodedb frame rssi snr MAX_PAYLOAD_LEN =
      some (.ok (packet, true))) : packet.data = sent.data := by
  obtain ⟨slot, flags, lookup, size, short, fits, same⟩ := framed
  rw [same] at decodes
  rcases tryDecodeWirePacket_cases (readHeader_octets _ _) decodes with
    ⟨passed, -⟩ | ⟨data, ch, -, searched, outcome⟩
  · cases passed
  · obtain ⟨found, -⟩ := tryDecryptSlots_opened lawful keyed lookup size short fits searched
    subst found
    rcases outcome with ⟨-, decoded⟩ | ⟨-, failed⟩
    · cases decoded
      rfl
    · cases failed

end

end Meshtastic
