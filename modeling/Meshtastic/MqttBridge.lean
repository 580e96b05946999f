import Meshtastic.Mqtt
import Meshtastic.RelayPolicy

/-! A frame that takes the way over MQTT: `mqtt_mesh_from_wire` on one gateway, and decoding and
relaying on another, beside what becomes of the same frame when it is heard. -/

namespace Meshtastic
open Bytes

/-! ## The message of a frame -/

private theorem flags_fields : ∀ i : Fin 256,
    let flags := UInt8.ofNat i.val
    flags &&& 0x07 = flagsHopLimit flags ∧ (flags >>> 5) &&& 0x07 = flagsHopStart flags ∧
      (flags &&& 0x08 != 0) = flagsWantAck flags ∧ (flags &&& 0x10 != 0) = flagsViaMqtt flags ∧
      packFlags (flagsHopLimit flags) (flagsHopStart flags) (flagsWantAck flags) true = flags ||| FLAGS_VIA_MQTT := by
  decide +kernel

theorem flags_read (flags : UInt8) :
    flags &&& 0x07 = flagsHopLimit flags ∧ (flags >>> 5) &&& 0x07 = flagsHopStart flags ∧
      (flags &&& 0x08 != 0) = flagsWantAck flags ∧ (flags &&& 0x10 != 0) = flagsViaMqtt flags ∧
      packFlags (flagsHopLimit flags) (flagsHopStart flags) (flagsWantAck flags) true = flags ||| FLAGS_VIA_MQTT := by
  have all := flags_fields ⟨flags.toNat, flags.toNat_lt⟩
  simp only [UInt8.ofNat_toNat] at all
  exact all

def wireMessage (hdr : WireHeader) (enc : Octets) : MeshPacket :=
  { payload := .encrypted enc
    from_ := hdr.src
    to_ := hdr.dest
    id := hdr.id
    hopLimit := flagsHopLimit hdr.flags
    hopStart := flagsHopStart hdr.flags
    wantAck := flagsWantAck hdr.flags
    viaMqtt := flagsViaMqtt hdr.flags
    channel := hdr.channel
    nextHop := hdr.nextHop
    relayNode := hdr.relayNode }

theorem mqttMeshFromWire_eq {wire enc : Octets} {hdr : WireHeader} (parsed : readHeader wire = some (hdr, enc))
    (short : enc.length ≤ ENCRYPTED_SIZE) :
    mqttMeshFromWire wire = .ok { wireMessage hdr enc with transportMechanism := .lora } := by
  obtain ⟨limit, start, ack, mqtt, -⟩ := flags_read hdr.flags
  unfold mqttMeshFromWire
  simp only [parsed, if_neg (Nat.not_lt.mpr short), limit, start, ack, mqtt, wireMessage]

theorem wire_parts {wire : Octets} (long : 17 ≤ wire.length) (short : wire.length ≤ 255) :
    ∃ hdr enc, readHeader wire = some (hdr, enc) ∧ 0 < enc.length ∧ enc.length ≤ PAYLOAD_MAX ∧
      mqttMeshFromWire wire = .ok { wireMessage hdr enc with transportMechanism := .lora } := by
  obtain ⟨hdr, enc, parsed⟩ := readHeader_isSome (Nat.le_trans (by decide) long : HDR_LEN ≤ wire.length)
  have length : wire.length = HDR_LEN + enc.length := by
    rw [eq_octets_of_readHeader parsed, List.length_append, WireHeader.octets_length]
  have sizes : HDR_LEN = 16 ∧ PAYLOAD_MAX = 239 ∧ ENCRYPTED_SIZE = 256 := by decide
  exact ⟨hdr, enc, parsed, by omega, by omega, mqttMeshFromWire_eq parsed (by omega)⟩

/-! ## The search for a channel -/

/-- The channel is enabled, has the hash, and its key makes of the bytes a message with a port. -/
def ChannelTable.OpensAt (codec : Codec) (t : ChannelTable) (wireHash : UInt8) (from_ id : UInt32) (enc : Octets)
    (ch : SlotIndex) : Prop :=
  (t.channelSlots ch).role ≠ .disabled ∧ t.channelHashes ch = wireHash ∧
    ∃ key data, channelGetKey t.channelSlots t.primaryIndex ch = some (.ok key) ∧
      decryptMeshEncryptedKey codec from_ id enc key = .ok data

def ChannelTable.Opens (codec : Codec) (t : ChannelTable) (wireHash : UInt8) (from_ id : UInt32) (enc : Octets) :
    Prop :=
  ∃ ch, t.OpensAt codec wireHash from_ id enc ch

def ChannelTable.Terminates (t : ChannelTable) : Prop :=
  ∀ ch, channelGetKey t.channelSlots t.primaryIndex ch ≠ none

instance (t : ChannelTable) : Decidable t.Terminates :=
  inferInstanceAs (Decidable (∀ ch, channelGetKey t.channelSlots t.primaryIndex ch ≠ none))

section
variable {codec : Codec} {t : ChannelTable} {wireHash : UInt8} {from_ id : UInt32} {enc : Octets}

theorem tryDecryptSlots_isSome (terminates : t.Terminates) (slots : List SlotIndex) :
    ∃ result, tryDecryptSlots codec t wireHash from_ id enc slots = some result := by
  induction slots with
  | nil => exact ⟨_, rfl⟩
  | cons ch rest ih =>
    unfold tryDecryptSlots
    split_ifs
    · exact ih
    · exact ih
    · split
      next lookup => exact False.elim (terminates ch lookup)
      next => exact ih
      next =>
        split
        next => exact ⟨_, rfl⟩
        next => exact ih

theorem ChannelTable.OpensAt.of_key {ch : SlotIndex} {key : Octets} {data : Data}
    (lookup : channelGetKey t.channelSlots t.primaryIndex ch = some (.ok key)) (hash : t.channelHashes ch = wireHash)
    (decrypts : decryptMeshEncryptedKey codec from_ id enc key = .ok data) :
    t.OpensAt codec wireHash from_ id enc ch := by
  have enabled : (t.channelSlots ch).role ≠ .disabled := fun disabled =>
    (channelGetKey_eq_ok lookup).1 (Or.inr disabled)
  exact ⟨enabled, hash, key, data, lookup, decrypts⟩

theorem tryDecryptSlots_ends {slots : List SlotIndex} {result : Except Errno (Data × SlotIndex)}
    (searched : tryDecryptSlots codec t wireHash from_ id enc slots = some result) :
    (∃ data ch key, result = .ok (data, ch) ∧ channelGetKey t.channelSlots t.primaryIndex ch = some (.ok key) ∧
      t.channelHashes ch = wireHash ∧ decryptMeshEncryptedKey codec from_ id enc key = .ok data) ∨
    (result = .error .ebadmsg ∧ ∀ ch ∈ slots, ¬t.OpensAt codec wireHash from_ id enc ch) := by
  induction slots with
  | nil =>
    cases searched
    exact Or.inr ⟨rfl, fun _ member => False.elim (List.not_mem_nil member)⟩
  | cons ch rest ih =>
    rcases tryDecryptSlots_cons searched with ⟨later, passed⟩ | ⟨key, data, lookup, hash, decrypts, same⟩
    · rcases ih later with found | ⟨failed, closed⟩
      · exact Or.inl found
      refine Or.inr ⟨failed, List.forall_mem_cons.mpr ⟨?_, closed⟩⟩
      intro opens
      obtain ⟨enabled, hash, key, data, lookup, decrypts⟩ := opens
      rcases passed with disabled | different | ⟨err, refused⟩ | ⟨key', err, keyed, -, fails⟩
      · exact enabled disabled
      · exact different hash
      · rw [lookup] at refused
        cases refused
      · rw [lookup] at keyed
        cases keyed
        rw [decrypts] at fails
        cases fails
    · exact Or.inl ⟨data, ch, key, same, lookup, hash, decrypts⟩

theorem tryDecryptWireHash_ends (bounded : codec.Bounded) (terminates : t.Terminates) (wireHash : UInt8)
    (from_ id : UInt32) (enc : Octets) :
    (∃ data ch, tryDecryptWireHash codec t wireHash from_ id enc = some (.ok (data, ch)) ∧
      t.Opens codec wireHash from_ id enc ∧ t.channelHashes ch = wireHash ∧ data.payload.length ≤ MAX_PAYLOAD_LEN) ∨
    (tryDecryptWireHash codec t wireHash from_ id enc = some (.error .ebadmsg) ∧
      ¬t.Opens codec wireHash from_ id enc) := by
  have returns : ∃ result, tryDecryptSlots codec t wireHash from_ id enc (List.finRange MAX_CHANNELS) = some result :=
    tryDecryptSlots_isSome terminates _
  obtain ⟨result, searched⟩ := returns
  have whole : tryDecryptWireHash codec t wireHash from_ id enc = some result := searched
  rcases tryDecryptSlots_ends searched with ⟨data, ch, key, same, lookup, hash, decrypts⟩ | ⟨same, closed⟩
  · subst same
    exact Or.inl ⟨data, ch, whole, ⟨ch, .of_key lookup hash decrypts⟩, hash, tryDecryptSlots_bounded bounded searched⟩
  · subst same
    refine Or.inr ⟨whole, fun opens => ?_⟩
    obtain ⟨ch, opensAt⟩ := opens
    exact closed ch (List.mem_finRange ch) opensAt

end

/-! ## The two decoders -/

/-- The hash that the channels are searched for on the way over MQTT: there a zero stands for none. -/
def messageHash (t : ChannelTable) (hdr : WireHeader) : UInt8 :=
  if hdr.channel ≠ 0 then hdr.channel else t.chHash

section
variable {codec : Codec} {t : ChannelTable} {mode : RebroadcastMode} {nodedb : NodeDbGet} {hdr : WireHeader}
variable {wire enc : Octets} {rssi snr : Int} {data : Data} {ch : SlotIndex}

theorem meshPbTryDecode_wireMessage (nonempty : 0 < enc.length) :
    meshPbTryDecode codec t (wireMessage hdr enc) =
      match tryDecryptWireHash codec t (messageHash t hdr) hdr.src hdr.id enc with
      | none => none
      | some (.error err) => some (.error err)
      | some (.ok (data, ch)) =>
        some (.ok { wireMessage hdr enc with payload := .decoded data, channel := UInt8.ofNat ch.val }) := by
  have payload : (wireMessage hdr enc).payload = .encrypted enc := rfl
  unfold meshPbTryDecode
  simp only [payload, if_neg (Nat.ne_of_gt nonempty)]
  rfl

theorem meshPbToPacket_found (nonempty : 0 < enc.length)
    (found : tryDecryptWireHash codec t (messageHash t hdr) hdr.src hdr.id enc = some (.ok (data, ch)))
    (small : data.payload.length ≤ MAX_PAYLOAD_LEN) :
    meshPbToPacket codec t (wireMessage hdr enc) MAX_PAYLOAD_LEN =
      some (.ok { heardPacket hdr data ch 0 0 with channel := t.channelHashes ch }) := by
  have roomy : ¬(data.payload.length ≠ 0 ∧ data.payload.length > MAX_PAYLOAD_LEN) := by omega
  have opened : meshPbTryDecode codec t (wireMessage hdr enc) =
      some (.ok { wireMessage hdr enc with payload := .decoded data, channel := UInt8.ofNat ch.val }) := by
    rw [meshPbTryDecode_wireMessage nonempty, found]
  rw [meshPbToPacket_opened opened]
  simp only [meshPbToPacket, decodedPbToPacket, if_neg roomy, slot_toNat, ch.isLt, if_true, channelsGetHash, dite_true]
  rfl

theorem meshPbToPacket_lost {err : Errno} (nonempty : 0 < enc.length)
    (failed : tryDecryptWireHash codec t (messageHash t hdr) hdr.src hdr.id enc = some (.error err)) :
    meshPbToPacket codec t (wireMessage hdr enc) MAX_PAYLOAD_LEN = some (.error err) := by
  have payload : (wireMessage hdr enc).payload = .encrypted enc := rfl
  unfold meshPbToPacket
  rw [payload, meshPbTryDecode_wireMessage nonempty, failed]

theorem meshPbToPacket_iff (bounded : codec.Bounded) (terminates : t.Terminates) (nonempty : 0 < enc.length) :
    (∃ packet, meshPbToPacket codec t (wireMessage hdr enc) MAX_PAYLOAD_LEN = some (.ok packet)) ↔
      t.Opens codec (messageHash t hdr) hdr.src hdr.id enc := by
  rcases tryDecryptWireHash_ends bounded terminates (messageHash t hdr) hdr.src hdr.id enc with
    ⟨data, ch, found, opens, -, small⟩ | ⟨failed, closed⟩
  · exact ⟨fun _ => opens, fun _ => ⟨_, meshPbToPacket_found nonempty found small⟩⟩
  · rw [meshPbToPacket_lost nonempty failed]
    refine iff_of_false ?_ closed
    intro made
    obtain ⟨packet, same⟩ := made
    cases same

theorem tryDecodeWirePacket_iff (bounded : codec.Bounded) (terminates : t.Terminates)
    (parsed : readHeader wire = some (hdr, enc)) :
    (∃ heard, tryDecodeWirePacket codec t mode nodedb wire rssi snr MAX_PAYLOAD_LEN = some (.ok (heard, true))) ↔
      decodeKnownOnly mode nodedb hdr.src = true ∧ t.Opens codec hdr.channel hdr.src hdr.id enc := by
  by_cases admitted : decodeKnownOnly mode nodedb hdr.src = true
  swap
  · have stranger : decodeKnownOnly mode nodedb hdr.src = false := by simpa using admitted
    rw [tryDecodeWirePacket_stranger parsed stranger]
    refine iff_of_false ?_ (fun both => admitted both.1)
    intro heard
    obtain ⟨packet, same⟩ := heard
    cases same
  rcases tryDecryptWireHash_ends bounded terminates hdr.channel hdr.src hdr.id enc with
    ⟨data, ch, found, opens, -, small⟩ | ⟨failed, closed⟩
  · exact ⟨fun _ => ⟨admitted, opens⟩, fun _ => ⟨_, tryDecodeWirePacket_found parsed admitted found small⟩⟩
  · rw [tryDecodeWirePacket_lost parsed failed]
    refine iff_of_false ?_ (fun both => closed both.2)
    intro heard
    obtain ⟨packet, same⟩ := heard
    cases same

/-- When both ways decode a frame they give the same packet, provided they have searched for one hash. -/
theorem decoded_same_iff (bounded : codec.Bounded) (terminates : t.Terminates) (nonempty : 0 < enc.length)
    (parsed : readHeader wire = some (hdr, enc)) {packet heard : Packet}
    (made : meshPbToPacket codec t (wireMessage hdr enc) MAX_PAYLOAD_LEN = some (.ok packet))
    (decoded : tryDecodeWirePacket codec t mode nodedb wire rssi snr MAX_PAYLOAD_LEN = some (.ok (heard, true))) :
    packet = { heard with rssi := 0, snr := 0 } ↔ messageHash t hdr = hdr.channel := by
  obtain ⟨admitted, opens⟩ := (tryDecodeWirePacket_iff bounded terminates parsed).mp ⟨_, decoded⟩
  rcases tryDecryptWireHash_ends bounded terminates hdr.channel hdr.src hdr.id enc with
    ⟨data, ch, found, -, hash, small⟩ | ⟨-, closed⟩
  swap
  · exact absurd opens closed
  rw [tryDecodeWirePacket_found parsed admitted found small] at decoded
  cases decoded
  rcases tryDecryptWireHash_ends bounded terminates (messageHash t hdr) hdr.src hdr.id enc with
    ⟨data', ch', found', -, hash', small'⟩ | ⟨failed, -⟩
  swap
  · rw [meshPbToPacket_lost nonempty failed] at made
    cases made
  rw [meshPbToPacket_found nonempty found' small'] at made
  cases made
  rw [hash']
  constructor
  · intro same
    exact congrArg Packet.channel same
  · intro one
    rw [one, found] at found'
    cases found'
    rw [one]
    rfl

end

/-- The two decoders agree on a frame and its message: the message is decoded exactly when the frame is,
and then to the same packet, but for the RSSI and the SNR, which only a heard frame has. -/
def DecodersAgree (codec : Codec) (t : ChannelTable) (mode : RebroadcastMode) (nodedb : NodeDbGet) (wire : Octets)
    (mesh : MeshPacket) (rssi snr : Int) : Prop :=
  ((∃ packet, meshPbToPacket codec t mesh MAX_PAYLOAD_LEN = some (.ok packet)) ↔
    ∃ heard, tryDecodeWirePacket codec t mode nodedb wire rssi snr MAX_PAYLOAD_LEN = some (.ok (heard, true))) ∧
  ∀ packet heard, meshPbToPacket codec t mesh MAX_PAYLOAD_LEN = some (.ok packet) →
    tryDecodeWirePacket codec t mode nodedb wire rssi snr MAX_PAYLOAD_LEN = some (.ok (heard, true)) →
    packet = { heard with rssi := 0, snr := 0 }

/-- The two decoders agree on a frame exactly when it names a hash, or the primary channel's hash is the
unset one, and policy admits the sender of a frame that can be opened; or when it names none and neither
way can open it. -/
theorem decoders_agree_iff (codec : Codec) (bounded : codec.Bounded) (t : ChannelTable) (terminates : t.Terminates)
    (mode : RebroadcastMode) (nodedb : NodeDbGet) (wire : Octets) (rssi snr : Int) (long : 17 ≤ wire.length)
    (short : wire.length ≤ 255) :
    ∃ hdr enc mesh, readHeader wire = some (hdr, enc) ∧ mqttMeshFromWire wire = .ok mesh ∧
      (DecodersAgree codec t mode nodedb wire mesh.toMeshPacket rssi snr ↔
        ((hdr.channel ≠ 0 ∨ t.chHash = 0) ∧
          (decodeKnownOnly mode nodedb hdr.src = true ∨ ¬t.Opens codec hdr.channel hdr.src hdr.id enc)) ∨
        (hdr.channel = 0 ∧ t.chHash ≠ 0 ∧ ¬t.Opens codec t.chHash hdr.src hdr.id enc ∧
          (decodeKnownOnly mode nodedb hdr.src = false ∨ ¬t.Opens codec 0 hdr.src hdr.id enc))) := by
  obtain ⟨hdr, enc, parsed, nonempty, -, carried⟩ := wire_parts long short
  refine ⟨hdr, enc, _, parsed, carried, ?_⟩
  have message : (∃ packet, meshPbToPacket codec t (wireMessage hdr enc) MAX_PAYLOAD_LEN = some (.ok packet)) ↔ _ :=
    meshPbToPacket_iff bounded terminates nonempty
  have frame : (∃ heard, tryDecodeWirePacket codec t mode nodedb wire rssi snr MAX_PAYLOAD_LEN =
      some (.ok (heard, true))) ↔ _ := tryDecodeWirePacket_iff bounded terminates parsed
  have agree : DecodersAgree codec t mode nodedb wire (wireMessage hdr enc) rssi snr ↔
      (t.Opens codec (messageHash t hdr) hdr.src hdr.id enc ↔
        decodeKnownOnly mode nodedb hdr.src = true ∧ t.Opens codec hdr.channel hdr.src hdr.id enc) ∧
      (t.Opens codec (messageHash t hdr) hdr.src hdr.id enc → decodeKnownOnly mode nodedb hdr.src = true →
        t.Opens codec hdr.channel hdr.src hdr.id enc → messageHash t hdr = hdr.channel) := by
    unfold DecodersAgree
    rw [message, frame]
    refine and_congr_right fun both => ⟨?_, ?_⟩
    · intro same opens admitted found
      obtain ⟨packet, made⟩ := message.mpr opens
      obtain ⟨heard, decoded⟩ := frame.mpr ⟨admitted, found⟩
      exact (decoded_same_iff bounded terminates nonempty parsed made decoded).mp (same packet heard made decoded)
    · intro one packet heard made decoded
      obtain ⟨admitted, found⟩ := frame.mp ⟨heard, decoded⟩
      exact (decoded_same_iff bounded terminates nonempty parsed made decoded).mpr
        (one (message.mp ⟨packet, made⟩) admitted found)
  apply agree.trans
  by_cases unset : hdr.channel = 0
  swap
  · have hash : messageHash t hdr = hdr.channel := if_pos unset
    rw [hash]
    by_cases admitted : decodeKnownOnly mode nodedb hdr.src = true <;> simp [unset, admitted]
  · have hash : messageHash t hdr = t.chHash := if_neg (not_not.mpr unset)
    rw [hash, unset]
    by_cases same : t.chHash = 0
    · rw [same]
      by_cases admitted : decodeKnownOnly mode nodedb hdr.src = true <;> simp [admitted]
    · by_cases admitted : decodeKnownOnly mode nodedb hdr.src = true <;>
        by_cases opens : t.Opens codec t.chHash hdr.src hdr.id enc <;>
          by_cases opens' : t.Opens codec 0 hdr.src hdr.id enc <;> simp [same, admitted, opens, opens']

def clearTable : ChannelTable :=
  plainTable.withSlot 1
    { hasSettings := true, role := .secondary, settings := { name := ⟨[0x41, 0x41], by decide⟩, psk := [0] } }

example : (channelsSetSlot plainTable 1 (clearTable.channelSlots 1)).map (·.channelHashes 1) = some 0 := by decide

def clearText : Octets :=
  WireHeader.octets
      { dest := 0xFFFFFFFF, src := 0x11, id := 1, flags := 0x63, channel := 0, nextHop := 0, relayNode := 0 } ++
    [0x08, 0x01, 0x12, 0x02, 0x68, 0x69]

def commonText : Octets :=
  WireHeader.octets
      { dest := 0xFFFFFFFF, src := 0x11, id := 1, flags := 0x63, channel := 0x08, nextHop := 0, relayNode := 0 } ++
    [0x08, 0x01, 0x12, 0x02, 0x68, 0x69]

theorem decoders_agree_iff_commonText :
    ∃ mesh, mqttMeshFromWire commonText = .ok mesh ∧
      DecodersAgree (dataCodec fun _ _ _ => 0) clearTable .all (fun _ => none) commonText mesh.toMeshPacket (-90) 6 := by
  obtain ⟨hdr, enc, mesh, parsed, carried, agree⟩ := decoders_agree_iff (dataCodec fun _ _ _ => 0) (dataCodec_bounded _)
    clearTable (by decide) .all (fun _ => none) commonText (-90) 6 (by decide) (by decide)
  cases parsed
  exact ⟨mesh, carried, agree.mpr (Or.inl ⟨Or.inl (by decide), Or.inl rfl⟩)⟩

/-- The frame on channel "AA" is decoded when it is heard and not when it comes over MQTT; in mode
KNOWN_ONLY a frame of a stranger is decoded when it comes over MQTT and not when it is heard. -/
theorem decoders_disagree :
    (∃ mesh, mqttMeshFromWire clearText = .ok mesh ∧
      ¬DecodersAgree (dataCodec fun _ _ _ => 0xff) clearTable .all (fun _ => none) clearText mesh.toMeshPacket (-90) 6) ∧
    ∃ mesh, mqttMeshFromWire commonText = .ok mesh ∧
      ¬DecodersAgree (dataCodec fun _ _ _ => 0) clearTable .knownOnly (fun _ => none) commonText mesh.toMeshPacket
        (-90) 6 := by
  refine ⟨⟨_, rfl, fun agree => ?_⟩, ⟨_, rfl, fun agree => ?_⟩⟩
  · obtain ⟨packet, made⟩ := agree.1.mpr ⟨_, rfl⟩
    cases made
  · obtain ⟨packet, heard⟩ := agree.1.mp ⟨_, rfl⟩
    cases heard

/-! ## The relayed frame -/

theorem rehashed_eq_iff {wire enc : Octets} {hdr : WireHeader} (flags hash : UInt8)
    (parsed : readHeader wire = some (hdr, enc)) :
    { hdr with flags := flags, channel := hash }.octets ++ enc = wire.set 12 flags ↔ hash = hdr.channel := by
  have whole := readHeader_set_flags flags parsed
  constructor
  · intro same
    rw [← same, readHeader_octets] at whole
    exact congrArg (fun result => result.1.channel) (Option.some.inj whole)
  · intro same
    rw [eq_octets_of_readHeader whole, same]

/-- Which hash a message of a frame is relayed with: a byte below eight is taken for a slot. -/
theorem meshPbHash_eq_iff (t : ChannelTable) (mesh : MeshPacket) :
    meshPbHash t mesh = mesh.channel ↔ 8 ≤ mesh.channel.toNat ∨ channelsGetHash t mesh.channel = mesh.channel := by
  unfold meshPbHash
  by_cases index : mesh.channel.toNat < MAX_CHANNELS
  · rw [if_pos index]
    exact ⟨Or.inr, fun either => either.resolve_left (Nat.not_le.mpr index)⟩
  · have large : 8 ≤ mesh.channel.toNat := Nat.not_lt.mp index
    have named : mesh.channel ≠ 0 := by
      intro zero
      rw [zero] at large
      exact absurd large (by decide)
    rw [if_neg index, if_pos named]
    exact ⟨fun _ => Or.inl large, fun _ => rfl⟩

section
variable {cfg : Kconfig} {codec : Codec}

theorem Node.outboundEnqueue_queued (node : Node cfg) {wire : Octets} (wait : Wait) (result : Option Errno)
    (nonempty : wire.length ≠ 0) (short : wire.length ≤ PKT_MAX) :
    node.outboundEnqueue wire wait (.queued result) =
      (if wait = .noWait then none else result, node.note (.handed wire)) := by
  unfold outboundEnqueue
  rw [if_neg]
  intro refused
  omega

/-- The message of a frame as it is injected. -/
def bridgedMessage (hdr : WireHeader) (enc : Octets) : MeshPacket :=
  { wireMessage hdr enc with viaMqtt := true }

def bridgedHeader (t : ChannelTable) (hdr : WireHeader) (enc : Octets) : WireHeader :=
  { hdr with flags := hdr.flags ||| FLAGS_VIA_MQTT, channel := meshPbHash t (wireMessage hdr enc) }

theorem Node.meshPbHeader_bridged (node : Node cfg) {hdr : WireHeader} (enc : Octets) (src : hdr.src ≠ 0)
    (dest : hdr.dest ≠ 0) :
    node.meshPbHeader (bridgedMessage hdr enc) hdr.id (flagsHopLimit hdr.flags) (flagsHopStart hdr.flags) =
      bridgedHeader node.table hdr enc := by
  obtain ⟨-, -, -, -, packed⟩ := flags_read hdr.flags
  simp only [meshPbHeader, bridgedMessage, wireMessage, ne_eq, src, dest, not_false_eq_true, if_true, packed]
  rfl

theorem injectRelay_bridged {node after : Node cfg} {hdr : WireHeader} {enc : Octets} {around : Surroundings}
    {result err : Option Errno} (src : hdr.src ≠ 0) (dest : hdr.dest ≠ 0) (id : hdr.id ≠ 0)
    (elsewhere : hdr.dest ≠ node.nodeId) (hops : flagsHopStart hdr.flags ≠ 0 ∨ flagsHopLimit hdr.flags = 0)
    (short : enc.length ≤ PAYLOAD_MAX) (radio : around.relay.radio = .queued result)
    (relayed : injectRelay codec around node (bridgedMessage hdr enc) = some (err, after)) :
    ∃ newer, after.log =
      newer ++ ⟨node.nodeId, .handed ((bridgedHeader node.table hdr enc).octets ++ enc)⟩ :: node.log := by
  have drawn : node.drawId (bridgedMessage hdr enc).id = (hdr.id, node) := if_neg id
  have fits : ¬enc.length > PAYLOAD_MAX := Nat.not_lt.mpr short
  have header := node.meshPbHeader_bridged enc src dest
  have length : ((bridgedHeader node.table hdr enc).octets ++ enc).length = HDR_LEN + enc.length := by
    rw [List.length_append, WireHeader.octets_length]
  have sizes : HDR_LEN = 16 ∧ PAYLOAD_MAX = 239 ∧ PKT_MAX = 255 := by decide
  have queue (wait : Wait) := node.outboundEnqueue_queued wait result
    (by omega : ((bridgedHeader node.table hdr enc).octets ++ enc).length ≠ 0) (by omega)
  unfold injectRelay at relayed
  rw [if_neg (show (bridgedMessage hdr enc).to_ ≠ node.nodeId from elsewhere)] at relayed
  by_cases last : flagsHopLimit hdr.flags = 0
  · rw [if_pos (show (bridgedMessage hdr enc).hopLimit = 0 from last)] at relayed
    have payload : (bridgedMessage hdr enc).payload = .encrypted enc := rfl
    have limit : (bridgedMessage hdr enc).hopLimit = flagsHopLimit hdr.flags := rfl
    have start : (bridgedMessage hdr enc).hopStart = flagsHopStart hdr.flags := rfl
    simp only [payload, relayInjectedEncryptedMeshPacket, if_neg fits, drawn, limit, start, header, radio, queue] at relayed
    cases relayed
    exact ⟨[], rfl⟩
  · have started := hops.resolve_right last
    rw [if_neg (show (bridgedMessage hdr enc).hopLimit ≠ 0 from last)] at relayed
    have limit : (if (bridgedMessage hdr enc).hopLimit = 0 then node.hopLimit else (bridgedMessage hdr enc).hopLimit) =
      flagsHopLimit hdr.flags := if_neg last
    have start : (if (bridgedMessage hdr enc).hopStart = 0 then flagsHopLimit hdr.flags
      else (bridgedMessage hdr enc).hopStart) = flagsHopStart hdr.flags := if_neg started
    have payload : (bridgedMessage hdr enc).payload = .encrypted enc := rfl
    simp only [sendMeshPb, payload, sendEncryptedMeshPb, if_neg fits, limit, start, drawn, header, radio, queue] at relayed
    rw [if_neg (by decide)] at relayed
    cases result with
    | some failed =>
      cases relayed
      exact ⟨[], rfl⟩
    | none =>
      cases relayed
      unfold Node.mqttOnTx
      split_ifs
      · exact ⟨[_], rfl⟩
      · exact ⟨[], rfl⟩

/-- A gateway that injects the message of a frame transmits first of all a frame, which is that frame
with its via_mqtt flag set exactly when the hash of the frame cannot be taken for a slot of the gateway,
or that slot has the hash. -/
theorem bridged_unchanged_iff (cfg : Kconfig) (codec : Codec) (node next : Node cfg) (wire enc : Octets)
    (hdr : WireHeader) (mesh : ReportedMeshPacket) (around : Surroundings) (result ret : Option Errno)
    (short : wire.length ≤ 255) (long : 17 ≤ wire.length) (parsed : readHeader wire = some (hdr, enc))
    (src : hdr.src ≠ 0) (dest : hdr.dest ≠ 0) (id : hdr.id ≠ 0) (elsewhere : hdr.dest ≠ node.nodeId)
    (hops : flagsHopStart hdr.flags ≠ 0 ∨ flagsHopLimit hdr.flags = 0)
    (carried : mqttMeshFromWire wire = .ok mesh) (running : node.initialized = true)
    (unseen : node.dupCheck hdr.src hdr.id = false) (radio : around.relay.radio = .queued result)
    (done : injectDownlinkMeshPacket codec around node mesh.toMeshPacket = some (ret, next)) :
    ∃ newer sent, next.log = newer ++ ⟨node.nodeId, .handed sent⟩ :: node.log ∧
      (sent = wire.set 12 (hdr.flags ||| FLAGS_VIA_MQTT) ↔
        8 ≤ hdr.channel.toNat ∨ channelsGetHash node.table hdr.channel = hdr.channel) := by
  obtain ⟨hdr', enc', parsed', -, fits, carried'⟩ := wire_parts long short
  rw [parsed] at parsed'
  cases parsed'
  rw [carried] at carried'
  cases carried'
  have on : node.initialized ≠ false := by simp [running]
  have fresh : node.dupCheck hdr.src hdr.id ≠ true := by simp [unseen]
  obtain ⟨err, after, relayed, later⟩ := injectDownlinkMeshPacket_stages on fresh done
  have other : hdr.dest ≠ (node.dupAdd hdr.src hdr.id).nodeId := elsewhere
  obtain ⟨mid, handed⟩ := injectRelay_bridged src dest id other hops fits radio relayed
  obtain ⟨effects, log, -⟩ := later.log
  refine ⟨effects.map (Record.mk after.nodeId) ++ mid, (bridgedHeader node.table hdr enc).octets ++ enc, ?_, ?_⟩
  · rw [log, handed, List.append_assoc]
    rfl
  · exact (rehashed_eq_iff _ _ parsed).trans (meshPbHash_eq_iff node.table (wireMessage hdr enc))

end

def hashedFrame (hash : UInt8) : Octets :=
  { passingHeader with channel := hash }.octets ++ [0x08, 1, 0x12, 0x02, 0x68, 0x69]

theorem bridged_unchanged_iff_hash8 :
    ∃ mesh ret next, mqttMeshFromWire (hashedFrame 8) = .ok mesh ∧
      injectDownlinkMeshPacket (dataCodec fun _ _ _ => 0) plainAround (listeningNode .all) mesh.toMeshPacket =
        some (ret, next) ∧
      ∃ newer, next.log = newer ++ [⟨0x11, .handed ((hashedFrame 8).set 12 0x73)⟩] := by
  refine ⟨_, _, _, rfl, rfl, ?_⟩
  obtain ⟨newer, sent, log, unchanged⟩ := bridged_unchanged_iff smallKconfig (dataCodec fun _ _ _ => 0) (listeningNode .all)
    _ (hashedFrame 8) _ { passingHeader with channel := 8 } _ plainAround none _ (by decide) (by decide) rfl (by decide)
    (by decide) (by decide) (by decide) (by decide) rfl rfl (by decide) rfl rfl
  exact ⟨newer, (unchanged.mpr (Or.inl (by decide))) ▸ log⟩

/-- A frame with the hash 3 goes out with the hash that slot 3 of the gateway has, which is zero. -/
theorem bridged_changed :
    ∃ mesh ret next, mqttMeshFromWire (hashedFrame 3) = .ok mesh ∧
      injectDownlinkMeshPacket (dataCodec fun _ _ _ => 0) plainAround (listeningNode .all) mesh.toMeshPacket =
        some (ret, next) ∧
      ⟨0x11, .handed ((hashedFrame 0).set 12 0x73)⟩ ∈ next.log ∧
      ⟨0x11, .handed ((hashedFrame 3).set 12 0x73)⟩ ∉ next.log := by
  exact ⟨_, _, _, rfl, rfl, by decide, by decide⟩

end Meshtastic
