import Meshtastic.ChannelsCoherence
import Meshtastic.DataCodec

/-! Decoding a frame gives back the packet it was built from. -/

namespace Meshtastic
open Bytes

/-! ## Header -/

theorem readHeader_octets (hdr : WireHeader) (rest : Octets) :
    readHeader (hdr.octets ++ rest) = some (hdr, rest) := by
  unfold WireHeader.octets le32
  simp only [List.cons_append, List.nil_append, readHeader, getLe32_le32]

theorem eq_octets_of_readHeader {frame enc : Octets} {hdr : WireHeader} (parsed : readHeader frame = some (hdr, enc)) :
    frame = hdr.octets ++ enc := by
  unfold readHeader at parsed
  split at parsed
  · cases parsed
    simp only [WireHeader.octets, le32_getLe32, List.cons_append, List.nil_append]
  · contradiction

theorem readHeader_isSome {frame : Octets} (long : HDR_LEN ≤ frame.length) :
    ∃ hdr enc, readHeader frame = some (hdr, enc) := by
  unfold readHeader
  split
  · exact ⟨_, _, rfl⟩
  · rename_i short
    match frame, long with
    | _ :: _ :: _ :: _ :: _ :: _ :: _ :: _ :: _ :: _ :: _ :: _ :: _ :: _ :: _ :: _ :: _, _ =>
      exact False.elim (short _ _ _ _ _ _ _ _ _ _ _ _ _ _ _ _ _ rfl)

theorem readHeader_set_flags {frame enc : Octets} {hdr : WireHeader} (flags : UInt8)
    (parsed : readHeader frame = some (hdr, enc)) :
    readHeader (frame.set 12 flags) = some ({ hdr with flags := flags }, enc) := by
  unfold readHeader at parsed
  split at parsed
  · cases parsed
    rfl
  · contradiction

theorem WireHeader.octets_length (hdr : WireHeader) : hdr.octets.length = HDR_LEN := by
  simp [WireHeader.octets, HDR_LEN]

theorem mask_lt (value : UInt8) : (value &&& FLAGS_HOP_LIMIT_MASK).toNat < 8 := by
  have masked : value.toNat &&& 7 ≤ 7 := Nat.and_le_right
  simp only [FLAGS_HOP_LIMIT_MASK, UInt8.toNat_and]
  show value.toNat &&& 7 < 8
  omega

private theorem flags_small : ∀ (hopLimit hopStart : Fin 8) (wantAck viaMqtt : Bool),
    let flags := packFlags (UInt8.ofNat hopLimit.val) (UInt8.ofNat hopStart.val) wantAck viaMqtt
    flagsHopLimit flags = UInt8.ofNat hopLimit.val ∧ flagsHopStart flags = UInt8.ofNat hopStart.val ∧
      flagsWantAck flags = wantAck ∧ flagsViaMqtt flags = viaMqtt := by
  decide

theorem flags_roundTrip (hopLimit hopStart : UInt8) (wantAck viaMqtt : Bool) :
    let flags := packFlags hopLimit hopStart wantAck viaMqtt
    flagsHopLimit flags = hopLimit &&& FLAGS_HOP_LIMIT_MASK ∧
      flagsHopStart flags = hopStart &&& FLAGS_HOP_LIMIT_MASK ∧
      flagsWantAck flags = wantAck ∧ flagsViaMqtt flags = viaMqtt := by
  have idem : ∀ value : UInt8, value &&& FLAGS_HOP_LIMIT_MASK &&& FLAGS_HOP_LIMIT_MASK =
      value &&& FLAGS_HOP_LIMIT_MASK := by
    intro value
    rw [UInt8.and_assoc]
    rfl
  have masked : packFlags hopLimit hopStart wantAck viaMqtt =
      packFlags (hopLimit &&& FLAGS_HOP_LIMIT_MASK) (hopStart &&& FLAGS_HOP_LIMIT_MASK) wantAck viaMqtt := by
    have start : hopStart &&& FLAGS_HOP_LIMIT_MASK &&& 0x07 = hopStart &&& 0x07 := idem hopStart
    simp only [packFlags, idem hopLimit, start]
  have small := flags_small ⟨_, mask_lt hopLimit⟩ ⟨_, mask_lt hopStart⟩ wantAck viaMqtt
  simp only [UInt8.ofNat_toNat] at small
  simp only [masked]
  exact small

theorem mask_eq {value : UInt8} (small : value ≤ 7) : value &&& FLAGS_HOP_LIMIT_MASK = value := by
  have bound : value.toNat < 2 ^ 3 := by
    have le : value.toNat ≤ 7 := small
    omega
  apply UInt8.toNat_inj.mp
  rw [UInt8.toNat_and]
  show value.toNat &&& (2 ^ 3 - 1) = value.toNat
  rw [Nat.and_two_pow_sub_one_eq_mod, Nat.mod_eq_of_lt bound]

/-! ## Slots as bytes -/

theorem slot_toNat (slot : SlotIndex) : (UInt8.ofNat slot.val).toNat = slot.val :=
  UInt8.toNat_ofNat_of_lt (Nat.lt_of_lt_of_le slot.isLt (by decide))

theorem slot_injective {slot slot' : SlotIndex} (same : UInt8.ofNat slot.val = UInt8.ofNat slot'.val) :
    slot = slot' := by
  apply Fin.ext
  rw [← slot_toNat slot, ← slot_toNat slot', same]

theorem slot_ne_invalid (slot : SlotIndex) : UInt8.ofNat slot.val ≠ CHANNEL_INDEX_INVALID := by
  intro invalid
  have small : slot.val < 8 := slot.isLt
  have large : slot.val = 255 := by
    rw [← slot_toNat slot, invalid]
    decide
  omega

theorem enabledSlot_ofNat {t : ChannelTable} {slot : SlotIndex} (enabled : (t.channelSlots slot).role ≠ .disabled) :
    enabledSlot t (UInt8.ofNat slot.val) = some slot := by
  unfold enabledSlot
  simp only [slot_toNat, slot.isLt, dite_true, if_neg enabled]

/-! ## Keys and payload -/

theorem padPsk_length (key : Octets) : (padPsk key).length = 16 ∨ 32 ≤ (padPsk key).length := by
  unfold padPsk
  split_ifs with short middle
  · left
    simp only [List.length_append, List.length_replicate]
    omega
  · right
    simp only [List.length_append, List.length_replicate]
    omega
  · omega

theorem expandPsk_length (psk : Octets) :
    (expandPsk psk).length = 0 ∨ (expandPsk psk).length = 16 ∨ 32 ≤ (expandPsk psk).length := by
  unfold expandPsk
  split
  · exact .inl rfl
  · split_ifs
    · exact .inl rfl
    · exact .inr (padPsk_length _)
  · exact .inr (padPsk_length _)

theorem channelGetKey_eq_ok {slots : Slots} {primaryIndex index : SlotIndex} {key : Octets}
    (found : channelGetKey slots primaryIndex index = some (.ok key)) :
    ¬(slots index).Off ∧ ∃ psk, key = expandPsk psk := by
  rw [channelGetKey_eq, keyOf] at found
  by_cases off : (slots index).Off
  · simp [off] at found
  refine ⟨off, ?_⟩
  rw [if_neg off] at found
  by_cases inherits : (slots index).Inherits
  · rw [if_pos inherits] at found
    unfold Channel.ownKey at found
    by_cases chain : (slots primaryIndex).Inherits
    · simp [chain] at found
    · by_cases primaryOff : (slots primaryIndex).Off
      · simp [chain, primaryOff] at found
      · simp only [chain, primaryOff, if_false, Option.some.injEq, Except.ok.injEq] at found
        exact ⟨_, found.symm⟩
  · simp only [inherits, if_false, Option.some.injEq, Except.ok.injEq] at found
    exact ⟨_, found.symm⟩

def cipher (codec : Codec) (key nonce text : Octets) : Octets :=
  if key.length = 0 then text else xorStream (codec.keystream key nonce) text

theorem cipher_length (codec : Codec) (key nonce text : Octets) :
    (cipher codec key nonce text).length = text.length := by
  unfold cipher
  split_ifs <;> simp

theorem cipher_cipher (codec : Codec) (key nonce text : Octets) :
    cipher codec key nonce (cipher codec key nonce text) = text := by
  unfold cipher
  split_ifs <;> simp

theorem buildWirePacket_eq_ok {codec : Codec} {t : ChannelTable} {nodedb : NodeDbGet} {packet : Packet}
    {wire : Octets} (built : buildWirePacket codec t nodedb packet = some (.ok wire)) :
    packet.payload.length ≤ MAX_PAYLOAD_LEN ∧ (codec.encodeData packet.data).length ≤ PAYLOAD_MAX ∧
    ∃ key, channelGetKey t.channelSlots t.primaryIndex
        (channelsResolveSendIndex t nodedb packet.to_ packet.channelIndex packet.channel) = some (.ok key) ∧
      (key.length = 0 ∨ key.length = 16 ∨ key.length = 32) ∧
      wire = (packet.header (t.channelHashes
          (channelsResolveSendIndex t nodedb packet.to_ packet.channelIndex packet.channel))).octets ++
        cipher codec key (packetNonce packet.id packet.from_) (codec.encodeData packet.data) := by
  unfold buildWirePacket encodePacketData at built
  by_cases long : packet.payload.length > MAX_PAYLOAD_LEN
  · simp [long] at built
  by_cases wide : (codec.encodeData packet.data).length > PAYLOAD_MAX
  · simp [long, wide] at built
  simp only [long, wide, if_false] at built
  refine ⟨by omega, by omega, ?_⟩
  generalize channelsResolveSendIndex t nodedb packet.to_ packet.channelIndex packet.channel = index at built ⊢
  cases lookup : channelGetKey t.channelSlots t.primaryIndex index with
  | none => simp [lookup] at built
  | some result =>
    cases result with
    | error err => simp [lookup] at built
    | ok key =>
      rw [lookup] at built
      obtain ⟨-, psk, expanded⟩ := channelGetKey_eq_ok lookup
      have sizes := expandPsk_length psk
      rw [← expanded] at sizes
      refine ⟨key, rfl, ?_⟩
      unfold ctrCrypt at built
      by_cases clear : key.length = 0
      · simp only [clear, if_true, Option.some.injEq, Except.ok.injEq] at built
        refine ⟨.inl clear, ?_⟩
        rw [cipher, if_pos clear, built]
      · by_cases size : key.length = 16 ∨ key.length = 24 ∨ key.length = 32
        · simp only [clear, size, if_true, if_false, Option.some.injEq, Except.ok.injEq] at built
          refine ⟨by omega, ?_⟩
          rw [cipher, if_neg clear, built]
        · simp [clear, size] at built

/-! ## Round trip -/

theorem plain_cipher (codec : Codec) {key : Octets} (nonce text : Octets)
    (size : key.length = 0 ∨ key.length = 16 ∨ key.length = 32) :
    (if key.length = 0 then Except.ok (cipher codec key nonce text)
      else ctrCrypt codec key nonce (cipher codec key nonce text)) = Except.ok text := by
  rcases size with clear | aes
  · rw [if_pos clear, cipher, if_pos clear]
  · rw [if_neg (by omega), ctrCrypt, if_pos (by omega)]
    have coded := cipher_cipher codec key nonce text
    rw [cipher, if_neg (by omega)] at coded
    rw [coded]

theorem decrypt_cipher {codec : Codec} (lawful : codec.Lawful) {data : Data} {key : Octets} (from_ id : UInt32)
    (short : data.payload.length ≤ MAX_PAYLOAD_LEN) (fits : (codec.encodeData data).length ≤ PAYLOAD_MAX)
    (size : key.length = 0 ∨ key.length = 16 ∨ key.length = 32) :
    (data.portnum ≠ PORT_UNKNOWN → decryptMeshEncryptedKey codec from_ id
      (cipher codec key (packetNonce id from_) (codec.encodeData data)) key = .ok data) ∧
    (data.portnum = PORT_UNKNOWN → ∃ err, decryptMeshEncryptedKey codec from_ id
      (cipher codec key (packetNonce id from_) (codec.encodeData data)) key = .error err) := by
  unfold decryptMeshEncryptedKey
  rw [cipher_length, plain_cipher codec _ _ size]
  simp only [lawful.decode_encode data short]
  constructor
  · intro port
    have positive := List.length_pos_iff.mpr (lawful.encode_ne_nil short port)
    rw [if_neg (by omega), if_neg (by omega), if_neg (by omega), if_neg port]
  · intro port
    by_cases empty : (codec.encodeData data).length = 0
    · exact ⟨_, if_pos empty⟩
    · rw [if_neg empty, if_neg (by omega), if_neg (by omega), if_pos port]
      exact ⟨_, rfl⟩

/-- The slot search stops at `c` when no slot tried before it is enabled with the same hash. -/
theorem tryDecryptSlots_first {codec : Codec} {t : ChannelTable} {wireHash : UInt8} {from_ id : UInt32}
    {enc key : Octets} {data : Data} {c : SlotIndex} (enabled : (t.channelSlots c).role ≠ .disabled)
    (hash : t.channelHashes c = wireHash)
    (lookup : channelGetKey t.channelSlots t.primaryIndex c = some (.ok key))
    (decrypts : decryptMeshEncryptedKey codec from_ id enc key = .ok data)
    (first : ∀ j, j < c → (t.channelSlots j).role ≠ .disabled → t.channelHashes j ≠ wireHash)
    (slots : List SlotIndex) (sorted : slots.Pairwise (· < ·)) (member : c ∈ slots) :
    tryDecryptSlots codec t wireHash from_ id enc slots = some (.ok (data, c)) := by
  induction slots with
  | nil => exact False.elim (List.not_mem_nil member)
  | cons ch rest ih =>
    obtain ⟨above, sortedRest⟩ := List.pairwise_cons.mp sorted
    unfold tryDecryptSlots
    by_cases here : ch = c
    · subst ch
      simp [enabled, channelsDecryptForHash, hash, lookup, decrypts]
    · have inRest := (List.mem_cons.mp member).resolve_left (Ne.symm here)
      rw [ih sortedRest inRest]
      by_cases disabled : (t.channelSlots ch).role = .disabled
      · rw [if_pos disabled]
      · have other : channelsDecryptForHash t ch wireHash = false := by
          simp [channelsDecryptForHash, first ch (above c inRest) disabled]
        rw [if_neg disabled, if_pos other]

/-! ## Decoding a frame -/

def heardPacket (hdr : WireHeader) (data : Data) (ch : SlotIndex) (rssi snr : Int) : Packet :=
  { (fillPacketFromHeader hdr rssi snr).withData data with channelIndex := UInt8.ofNat ch.val }

section
variable {codec : Codec} {t : ChannelTable} {mode : RebroadcastMode} {nodedb : NodeDbGet} {wire enc : Octets}
variable {hdr : WireHeader} {rssi snr : Int} {payloadLen : Nat} {data : Data} {ch : SlotIndex}

theorem tryDecodeWirePacket_cases {result : Except Errno (Packet × Bool)} (parsed : readHeader wire = some (hdr, enc))
    (decodes : tryDecodeWirePacket codec t mode nodedb wire rssi snr payloadLen = some result) :
    (result = .ok (fillPacketFromHeader hdr rssi snr, false) ∧
      (decodeKnownOnly mode nodedb hdr.src = false ∨
        ∃ err, tryDecryptWireHash codec t hdr.channel hdr.src hdr.id enc = some (.error err))) ∨
    ∃ data ch, decodeKnownOnly mode nodedb hdr.src = true ∧
      tryDecryptWireHash codec t hdr.channel hdr.src hdr.id enc = some (.ok (data, ch)) ∧
      (data.payload.length ≤ payloadLen ∧ result = .ok (heardPacket hdr data ch rssi snr, true) ∨
        payloadLen < data.payload.length ∧ result = .error .enomem) := by
  unfold tryDecodeWirePacket at decodes
  rw [parsed] at decodes
  simp only at decodes
  split_ifs at decodes with hidden
  · exact Or.inl ⟨(Option.some.inj decodes).symm, Or.inl hidden⟩
  · have admitted : decodeKnownOnly mode nodedb hdr.src = true := Bool.not_eq_false _ ▸ hidden
    split at decodes
    next => contradiction
    next err failed => exact Or.inl ⟨(Option.some.inj decodes).symm, Or.inr ⟨err, failed⟩⟩
    next data ch found =>
      refine Or.inr ⟨data, ch, admitted, found, ?_⟩
      split_ifs at decodes with long
      · exact Or.inr ⟨long.2, (Option.some.inj decodes).symm⟩
      · exact Or.inl ⟨by omega, (Option.some.inj decodes).symm⟩

theorem tryDecodeWirePacket_found (parsed : readHeader wire = some (hdr, enc))
    (admitted : decodeKnownOnly mode nodedb hdr.src = true)
    (found : tryDecryptWireHash codec t hdr.channel hdr.src hdr.id enc = some (.ok (data, ch)))
    (small : data.payload.length ≤ payloadLen) :
    tryDecodeWirePacket codec t mode nodedb wire rssi snr payloadLen =
      some (.ok (heardPacket hdr data ch rssi snr, true)) := by
  have source : (fillPacketFromHeader hdr rssi snr).from_ = hdr.src := rfl
  have number : (fillPacketFromHeader hdr rssi snr).id = hdr.id := rfl
  have roomy : ¬(data.payload.length ≠ 0 ∧ data.payload.length > payloadLen) := by omega
  unfold tryDecodeWirePacket
  simp only [parsed, source, number, admitted, Bool.true_eq_false, if_false, found, if_neg roomy, heardPacket]

theorem tryDecodeWirePacket_stranger (parsed : readHeader wire = some (hdr, enc))
    (stranger : decodeKnownOnly mode nodedb hdr.src = false) :
    tryDecodeWirePacket codec t mode nodedb wire rssi snr payloadLen =
      some (.ok (fillPacketFromHeader hdr rssi snr, false)) := by
  have source : (fillPacketFromHeader hdr rssi snr).from_ = hdr.src := rfl
  unfold tryDecodeWirePacket
  simp only [parsed, source, if_pos stranger]

theorem tryDecodeWirePacket_lost {err : Errno} (parsed : readHeader wire = some (hdr, enc))
    (failed : tryDecryptWireHash codec t hdr.channel hdr.src hdr.id enc = some (.error err)) :
    tryDecodeWirePacket codec t mode nodedb wire rssi snr payloadLen =
      some (.ok (fillPacketFromHeader hdr rssi snr, false)) := by
  have source : (fillPacketFromHeader hdr rssi snr).from_ = hdr.src := rfl
  have number : (fillPacketFromHeader hdr rssi snr).id = hdr.id := rfl
  unfold tryDecodeWirePacket
  simp only [parsed, source, number, failed]
  split_ifs <;> rfl

end

theorem tryDecodeWirePacket_frame {codec : Codec} (lawful : codec.Lawful) {t : ChannelTable} (hdr : WireHeader)
    {key : Octets} {data : Data} {c : SlotIndex} {mode : RebroadcastMode} {nodedb : NodeDbGet}
    (rssi snr : Int) {payloadLen : Nat}
    (short : data.payload.length ≤ MAX_PAYLOAD_LEN) (port : data.portnum ≠ PORT_UNKNOWN)
    (fits : (codec.encodeData data).length ≤ PAYLOAD_MAX)
    (lookup : channelGetKey t.channelSlots t.primaryIndex c = some (.ok key))
    (size : key.length = 0 ∨ key.length = 16 ∨ key.length = 32)
    (hash : hdr.channel = t.channelHashes c)
    (first : ∀ j, j < c → (t.channelSlots j).role ≠ .disabled → t.channelHashes j ≠ t.channelHashes c)
    (admitted : decodeKnownOnly mode nodedb hdr.src = true) (room : MAX_PAYLOAD_LEN ≤ payloadLen) :
    tryDecodeWirePacket codec t mode nodedb
        (hdr.octets ++ cipher codec key (packetNonce hdr.id hdr.src) (codec.encodeData data)) rssi snr payloadLen =
      some (.ok ({ (fillPacketFromHeader hdr rssi snr).withData data with
        channelIndex := UInt8.ofNat c.val }, true)) := by
  have enabled : (t.channelSlots c).role ≠ .disabled := fun disabled =>
    (channelGetKey_eq_ok lookup).1 (.inr disabled)
  have found : tryDecryptWireHash codec t hdr.channel hdr.src hdr.id
      (cipher codec key (packetNonce hdr.id hdr.src) (codec.encodeData data)) = some (.ok (data, c)) := by
    rw [hash]
    exact tryDecryptSlots_first enabled rfl lookup ((decrypt_cipher lawful hdr.src hdr.id short fits size).1 port)
      first (List.finRange MAX_CHANNELS) (List.pairwise_lt_finRange MAX_CHANNELS) (List.mem_finRange c)
  exact tryDecodeWirePacket_found (readHeader_octets _ _) admitted found (Nat.le_trans short room)

/-- A frame that was built decodes, on the same table, to the packet it was built from. -/
theorem decodeWirePacket_buildWirePacket (codec : Codec) (lawful : codec.Lawful) (t : ChannelTable)
    (nodedb nodedb' : NodeDbGet) (mode : RebroadcastMode) (packet : Packet) (wire : Octets) (rssi snr : Int)
    (payloadLen : Nat) (c : SlotIndex)
    (resolved : c = channelsResolveSendIndex t nodedb packet.to_ packet.channelIndex packet.channel)
    (port : packet.portnum ≠ PORT_UNKNOWN) (hopLimit : packet.hopLimit ≤ 7) (hopStart : packet.hopStart ≤ 7)
    (first : ∀ j, j < c → (t.channelSlots j).role ≠ .disabled → t.channelHashes j ≠ t.channelHashes c)
    (known : mode ≠ .knownOnly ∨ (nodedb' packet.from_).isSome)
    (room : MAX_PAYLOAD_LEN ≤ payloadLen)
    (built : buildWirePacket codec t nodedb packet = some (.ok wire)) :
    16 < wire.length ∧ wire.length ≤ 255 ∧
    decodeWirePacket codec t mode nodedb' wire rssi snr payloadLen =
      some (.ok { packet with
        channel := t.channelHashes c, channelIndex := UInt8.ofNat c.val, rssi := rssi, snr := snr }) := by
  obtain ⟨short, fits, key, lookup, size, framed⟩ := buildWirePacket_eq_ok built
  rw [← resolved] at lookup framed
  have dataShort : packet.data.payload.length ≤ MAX_PAYLOAD_LEN := short
  have dataPort : packet.data.portnum ≠ PORT_UNKNOWN := port
  have positive := List.length_pos_iff.mpr (lawful.encode_ne_nil dataShort dataPort)
  have length : wire.length = HDR_LEN + (codec.encodeData packet.data).length := by
    rw [framed, List.length_append, WireHeader.octets_length, cipher_length]
  have limits : PAYLOAD_MAX = 239 ∧ HDR_LEN = 16 := by decide
  refine ⟨by omega, by omega, ?_⟩
  have admitted : decodeKnownOnly mode nodedb' (packet.header (t.channelHashes c)).src = true := by
    show decodeKnownOnly mode nodedb' packet.from_ = true
    unfold decodeKnownOnly
    rcases known with anyone | stored
    · simp [anyone]
    · simp [stored]
  have unpacked := flags_roundTrip packet.hopLimit packet.hopStart packet.wantAck packet.viaMqtt
  simp only [mask_eq hopLimit, mask_eq hopStart] at unpacked
  have decoded := tryDecodeWirePacket_frame lawful (packet.header (t.channelHashes c)) rssi snr dataShort
    dataPort fits lookup size rfl first admitted room
  unfold decodeWirePacket
  rw [framed]
  apply (congrArg _ decoded).trans
  simp only [Option.map_some, fillPacketFromHeader, Packet.header, unpacked, Packet.withData, Packet.data]

theorem decodeWirePacket_buildWirePacket_greeting :
    ∃ t wire, channelsInitFromConfig 0 (some ⟨[0], none⟩) = some t ∧
      buildWirePacket (dataCodec fun _ _ _ => 0) t (fun _ => none) greeting = some (.ok wire) ∧
      decodeWirePacket (dataCodec fun _ _ _ => 0) t .all (fun _ => none) wire (-90) 6 233 =
        some (.ok { greeting with channel := t.channelHashes 0, channelIndex := 0, rssi := -90, snr := 6 }) := by
  refine ⟨_, _, rfl, rfl, ?_⟩
  exact (decodeWirePacket_buildWirePacket (dataCodec fun _ _ _ => 0) (dataCodec_lawful _) _ (fun _ => none)
    (fun _ => none) .all greeting _ (-90) 6 233 0 rfl (by decide) (by decide) (by decide) (by decide)
    (.inl (by decide)) (by decide) rfl).2.2

end Meshtastic
