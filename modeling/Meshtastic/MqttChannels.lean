import Meshtastic.MqttUplink

/-! Two gateways that share a channel: under which name one publishes what it hears on it, and whether the
other injects it. -/

namespace Meshtastic
open Bytes

/-! ## Names -/

theorem hexDigit_injective {first second : Nat} (small : first < 16) (small' : second < 16)
    (same : hexDigit first = hexDigit second) : first = second := by
  have all : ∀ first second : Fin 16, hexDigit first.val = hexDigit second.val → first = second := by decide
  exact congrArg Fin.val (all ⟨first, small⟩ ⟨second, small'⟩ same)

theorem mqttNodeIdStr_injective : Function.Injective mqttNodeIdStr := by
  intro first second same
  have digits : hexDigits first = hexDigits second := (List.cons.inj (congrArg CString.bytes same)).2
  have nibble : ∀ shift ∈ [28, 24, 20, 16, 12, 8, 4, 0],
      first.toNat / 2 ^ shift % 16 = second.toNat / 2 ^ shift % 16 := by
    intro shift member
    have equal := List.map_inj_left.mp digits shift member
    exact hexDigit_injective (Nat.mod_lt _ (by decide)) (Nat.mod_lt _ (by decide)) equal
  have top : first.toNat / 2 ^ 32 = second.toNat / 2 ^ 32 := by
    rw [Nat.div_eq_of_lt first.toNat_lt, Nat.div_eq_of_lt second.toNat_lt]
  -- from the highest digit down to the lowest
  have upper : first.toNat / 2 ^ 16 = second.toNat / 2 ^ 16 := by
    apply div_eq_of_digit 16 (nibble 16 (by decide))
    apply div_eq_of_digit 20 (nibble 20 (by decide))
    apply div_eq_of_digit 24 (nibble 24 (by decide))
    exact div_eq_of_digit 28 (nibble 28 (by decide)) top
  have whole : first.toNat / 2 ^ 0 = second.toNat / 2 ^ 0 := by
    apply div_eq_of_digit 0 (nibble 0 (by decide))
    apply div_eq_of_digit 4 (nibble 4 (by decide))
    apply div_eq_of_digit 8 (nibble 8 (by decide))
    exact div_eq_of_digit 12 (nibble 12 (by decide)) upper
  apply UInt32.toNat_inj.mp
  rw [Nat.pow_zero, Nat.div_one, Nat.div_one] at whole
  exact whole

theorem channelsMatchesMqttName_iff (t : ChannelTable) (name : CString) :
    channelsMatchesMqttName t name = true ↔
      ∃ slot, (t.channelSlots slot).role ≠ .disabled ∧ name = channelsGetName t.channelSlots slot := by
  simp [channelsMatchesMqttName]

/-! ## Downlink -/

def MeshPacket.isDecoded (mesh : MeshPacket) : Bool :=
  match mesh.payload with
  | .decoded _ => true
  | _ => false

section
variable {cfg : Kconfig} {mq : MqttConfig} {envelopes : EnvelopeCodec}

theorem mqttHandlePublish_iff {node : Node cfg} {payload : Octets} {mesh : ReportedMeshPacket}
    {channelId gatewayId : CString}
    (decoded : envelopes.decode payload = some ⟨some mesh, some channelId, some gatewayId⟩) :
    (∃ passed, mqttHandlePublish mq envelopes node payload = some passed) ↔
      mq.downlinkEnabled = true ∧ channelsMatchesMqttName node.table channelId = true ∧
      channelsDownlinkEnabled node.table (channelsPrimaryIndex node.table) = true ∧
      gatewayId ≠ mqttNodeIdStr node.nodeId ∧ mesh.from_ ≠ node.nodeId ∧
      (mq.encryptionEnabled = true → mesh.isDecoded = false) := by
  unfold mqttHandlePublish
  rw [decoded]
  by_cases build : mq.downlinkEnabled = true
  swap
  · simp [build]
  by_cases named : channelsMatchesMqttName node.table channelId = true
  swap
  · simp [named]
  by_cases permitted : channelsDownlinkEnabled node.table (channelsPrimaryIndex node.table) = true
  swap
  · simp [permitted]
  by_cases echo : gatewayId = mqttNodeIdStr node.nodeId
  · simp [echo]
  by_cases own : mesh.from_ = node.nodeId
  · simp [own]
  cases payload : mesh.payload with
  | decoded data =>
    cases mq.encryptionEnabled <;> simp [build, named, permitted, echo, own, MeshPacket.isDecoded, payload]
  | encrypted enc => simp [build, named, permitted, echo, own, MeshPacket.isDecoded, payload]
  | unset enc => simp [build, named, permitted, echo, own, MeshPacket.isDecoded, payload]

theorem uplinked_isDecoded {packet : Packet} {wire : Octets} {mesh : ReportedMeshPacket}
    (carried : (if mq.encryptionEnabled then mqttMeshFromWire wire else packetToMeshPb packet) = .ok mesh) :
    mesh.isDecoded = !mq.encryptionEnabled := by
  cases encrypts : mq.encryptionEnabled with
  | true =>
    rw [encrypts] at carried
    unfold mqttMeshFromWire at carried
    simp only [if_true] at carried
    split at carried
    next => contradiction
    next hdr enc parsed =>
      split_ifs at carried
      cases carried
      rfl
  | false =>
    rw [encrypts] at carried
    unfold packetToMeshPb at carried
    by_cases long : packet.payload.length > MAX_PAYLOAD_LEN
    · simp [long] at carried
    · rw [if_neg (by decide), if_neg long] at carried
      cases carried
      rfl

end

/-! ## Two gateways -/

/-- Slots of two tables hold the same channel. -/
structure SharedChannel (t other : ChannelTable) (slot slot' : SlotIndex) : Prop where
  enabled : (t.channelSlots slot).role ≠ .disabled
  enabled' : (other.channelSlots slot').role ≠ .disabled
  name : channelsGetName other.channelSlots slot' = channelsGetName t.channelSlots slot
  key : channelGetKey other.channelSlots other.primaryIndex slot' = channelGetKey t.channelSlots t.primaryIndex slot

def ChannelTable.PermitsDownlink (t : ChannelTable) (name : CString) : Prop :=
  ∃ slot, (t.channelSlots slot).role ≠ .disabled ∧ name = channelsGetName t.channelSlots slot ∧
    channelsDownlinkEnabled t (UInt8.ofNat slot.val) = true

section
variable {cfg cfg' : Kconfig}

/-- The envelope names the channel, and the other gateway passes its packet on exactly when a channel of
its own that has the name in the envelope permits it. -/
def BridgesPerChannel (mq : MqttConfig) (envelopes : EnvelopeCodec) (node : Node cfg) (name : CString)
    (envelope : ServiceEnvelope) : Prop :=
  envelope.channelId = some name ∧
    ((∃ passed, mqttHandlePublish mq envelopes node (envelopes.encode envelope) = some passed) ↔
      ∃ named, envelope.channelId = some named ∧ node.table.PermitsDownlink named)

/-- What one gateway does with an envelope of another, for a name that one of its channels has. -/
theorem bridgesPerChannel_iff {mq : MqttConfig} {envelopes : EnvelopeCodec} {node : Node cfg}
    {mesh : ReportedMeshPacket} {channelId name gatewayId : CString} {slot : SlotIndex}
    (enabled : (node.table.channelSlots slot).role ≠ .disabled)
    (has : channelsGetName node.table.channelSlots slot = name)
    (decoded : envelopes.decode (envelopes.encode ⟨some mesh, some channelId, some gatewayId⟩) =
      some ⟨some mesh, some channelId, some gatewayId⟩)
    (other : gatewayId ≠ mqttNodeIdStr node.nodeId) (foreign : mesh.from_ ≠ node.nodeId) :
    BridgesPerChannel mq envelopes node name ⟨some mesh, some channelId, some gatewayId⟩ ↔
      name = channelId ∧
      (mq.downlinkEnabled = true ∧ (mq.encryptionEnabled = true → mesh.isDecoded = false) ∧
          channelsDownlinkEnabled node.table (channelsPrimaryIndex node.table) = true ↔
        node.table.PermitsDownlink name) := by
  unfold BridgesPerChannel
  rw [mqttHandlePublish_iff decoded]
  constructor
  · intro bridges
    obtain ⟨published, passes⟩ := bridges
    have same : channelId = name := Option.some.inj published
    subst same
    have matched : channelsMatchesMqttName node.table channelId = true :=
      (channelsMatchesMqttName_iff _ _).mpr ⟨slot, enabled, has.symm⟩
    refine ⟨rfl, ?_, ?_⟩
    · intro accepts
      obtain ⟨build, kind, permitted⟩ := accepts
      obtain ⟨named, same, permits⟩ := passes.mp ⟨build, matched, permitted, other, foreign, kind⟩
      rw [Option.some.inj same]
      exact permits
    · intro permits
      obtain ⟨build, -, permitted, -, -, kind⟩ := passes.mpr ⟨channelId, rfl, permits⟩
      exact ⟨build, kind, permitted⟩
  · intro agrees
    obtain ⟨same, accepts⟩ := agrees
    subst same
    have matched : channelsMatchesMqttName node.table name = true :=
      (channelsMatchesMqttName_iff _ _).mpr ⟨slot, enabled, has.symm⟩
    refine ⟨rfl, ?_, ?_⟩
    · intro passes
      obtain ⟨build, -, permitted, -, -, kind⟩ := passes
      exact ⟨name, rfl, accepts.mp ⟨build, kind, permitted⟩⟩
    · intro permits
      obtain ⟨named, same, permits⟩ := permits
      rw [← Option.some.inj same] at permits
      obtain ⟨build, kind, permitted⟩ := accepts.mpr permits
      exact ⟨build, matched, permitted, other, foreign, kind⟩

theorem Uplink.MadeBy.heard {mq : MqttConfig} {codec : Codec} {uplink : Uplink cfg} {node : Node cfg} {frame : Octets}
    {rssi snr : Int} {around : Surroundings} (made : uplink.MadeBy mq codec node (.receive frame rssi snr around))
    (foreign : uplink.packet.from_ ≠ node.nodeId) :
    uplink.wire = frame ∧ node.tryDecode codec around.nodedb frame rssi snr = some (.ok (uplink.packet, true)) ∧
      ∃ slot : SlotIndex, uplink.packet.channelIndex = UInt8.ofNat slot.val := by
  rw [← made.alike.nodeId] at foreign
  cases made.source with
  | sent asked sending =>
    rw [made.request] at asked
    contradiction
  | phone asked payload sending =>
    rw [made.request] at asked
    contradiction
  | encrypted asked payload own packet wire => exact False.elim (foreign own)
  | ack decoded toUs asker sending => exact False.elim (foreign sending.ack_own)
  | heard decoded framed other =>
    rw [made.request] at decoded framed
    rw [made.alike.decodes] at decoded
    have decodes := Node.decodes_receive decoded
    exact ⟨(Option.some.inj framed).symm, decodes, tryDecodeWirePacket_slot decodes⟩

/-- Gateways do what they should for a shared channel exactly when the first one's primary channel has its
name, and the second one's build and its primary channel permit downlink exactly when a channel of that
name does. -/
theorem bridges_per_channel_iff (mq mq' : MqttConfig) (codec : Codec) (envelopes : EnvelopeCodec) (board : Board)
    (gateway after : Gateway cfg) (node : Node cfg') (frame : Octets) (rssi snr : Int) (around : Surroundings)
    (new : List (Uplink cfg)) (uplink : Uplink cfg)
    (taken : gateway.step mq codec envelopes board (.call (.receive frame rssi snr around)) = some after)
    (grown : after.uplinks = new ++ gateway.uplinks) (member : uplink ∈ new)
    (foreign : uplink.packet.from_ ≠ gateway.node.nodeId) :
    ∃ slot : SlotIndex, gateway.node.tryDecode codec around.nodedb frame rssi snr = some (.ok (uplink.packet, true)) ∧
      uplink.packet.channelIndex = UInt8.ofNat slot.val ∧ uplink.wire = frame ∧
      channelsUplinkEnabled gateway.node.table (UInt8.ofNat slot.val) = true ∧
      ∀ slot', SharedChannel gateway.node.table node.table slot slot' →
        envelopes.decode (envelopes.encode uplink.envelope) = some uplink.envelope →
        gateway.node.nodeId ≠ node.nodeId → (∀ mesh, uplink.envelope.packet = some mesh → mesh.from_ ≠ node.nodeId) →
        (BridgesPerChannel mq' envelopes node (channelsGetName gateway.node.table.channelSlots slot) uplink.envelope ↔
          channelsGetName gateway.node.table.channelSlots slot = runtimeChannelName gateway.node.table ∧
          (mq'.downlinkEnabled = true ∧ (mq'.encryptionEnabled = true → mq.encryptionEnabled = true) ∧
              channelsDownlinkEnabled node.table (channelsPrimaryIndex node.table) = true ↔
            node.table.PermitsDownlink (channelsGetName gateway.node.table.channelSlots slot))) := by
  obtain ⟨newer, -, same, made, -⟩ := Gateway.step_gains taken
  rw [grown] at same
  rw [List.append_cancel_right same] at member
  obtain ⟨call, calls, fine⟩ := made uplink member
  cases calls
  obtain ⟨wire, decodes, slot, index⟩ := fine.heard foreign
  obtain ⟨effect, queued⟩ := fine.queued
  obtain ⟨-, -, mesh, carried, named⟩ := mqttUplinkEnvelope_eq_some queued.envelope
  rw [fine.alike.table, fine.alike.nodeId] at named
  have permitted := fine.permitted
  rw [index, fine.alike.table] at permitted
  refine ⟨slot, decodes, index, wire, permitted, ?_⟩
  intro slot' shared roundTrip elsewhere notOwn
  have other : mqttNodeIdStr gateway.node.nodeId ≠ mqttNodeIdStr node.nodeId :=
    fun same => elsewhere (mqttNodeIdStr_injective same)
  have source := notOwn mesh (by rw [named])
  rw [named] at roundTrip ⊢
  have encrypts : mesh.isDecoded = false ↔ mq.encryptionEnabled = true := by
    rw [uplinked_isDecoded carried]
    simp
  rw [← encrypts]
  exact bridgesPerChannel_iff shared.enabled' shared.name roundTrip other source

end

/-! ## Values for examples -/

def gatewayAt (nodeId : UInt32) (table : ChannelTable) : Gateway smallKconfig :=
  { Gateway.powerOn smallKconfig table with
    node := { Node.powerOn smallKconfig table with nodeId := nodeId, initialized := true } }

def ownName : CString := ⟨[0x4f, 0x77, 0x6e], ownName_noNul⟩

/-- A text message of node 0x33 to node 0x44 on the channel with that hash, and the envelope in which gateway
0x11 publishes it under a name. -/
def heardFrame (hash : UInt8) : Octets :=
  WireHeader.octets { dest := 0x44, src := 0x33, id := 9, flags := 0x63, channel := hash, nextHop := 0, relayNode := 0 } ++
    [0x08, 0x01, 0x12, 0x02, 0x68, 0x69]

def heardEnvelope (hash : UInt8) (name : CString) : ServiceEnvelope :=
  { packet := some
      { from_ := 0x33, to_ := 0x44, id := 9, channel := hash, hopLimit := 3, hopStart := 3,
        payload := .encrypted [0x08, 0x01, 0x12, 0x02, 0x68, 0x69], transportMechanism := .lora }
    channelId := some name
    gatewayId := some (mqttNodeIdStr 0x11) }

theorem bridges_per_channel_iff_longFast :
    ∃ after uplink, (gatewayAt 0x11 gatewayTable).step plainMqtt (dataCodec fun _ _ _ => 0)
        (envelopeCodec [heardEnvelope 0x08 CHANNEL_LONGFAST]) plainBoard
        (.call (.receive (heardFrame 0x08) (-90) 6 plainAround)) = some after ∧
      after.uplinks = [uplink] ∧
      BridgesPerChannel plainMqtt (envelopeCodec [heardEnvelope 0x08 CHANNEL_LONGFAST]) (gatewayAt 0x22 gatewayTable).node
        CHANNEL_LONGFAST uplink.envelope := by
  refine ⟨_, _, rfl, rfl, ?_⟩
  obtain ⟨slot, -, index, -, -, bridges⟩ := bridges_per_channel_iff plainMqtt plainMqtt (dataCodec fun _ _ _ => 0)
    (envelopeCodec [heardEnvelope 0x08 CHANNEL_LONGFAST]) plainBoard (gatewayAt 0x11 gatewayTable) _
    (gatewayAt 0x22 gatewayTable).node (heardFrame 0x08) (-90) 6 plainAround [_] _ rfl rfl List.mem_cons_self (by decide)
  have first : slot = 0 := slot_injective index.symm
  subst first
  refine (bridges 0 ⟨by decide, by decide, rfl, rfl⟩ rfl (by decide) ?_).mpr ⟨rfl, ?_⟩
  · intro mesh packet
    cases packet
    decide
  · exact iff_of_true (by decide) ⟨0, by decide, rfl, by decide⟩

def ownUplinkTable : ChannelTable :=
  gatewayTable.withSlot 1
    { hasSettings := true, role := .secondary, settings := { name := ownName, psk := [2], uplinkEnabled := true } }

def ownPrimaryTable : ChannelTable :=
  { channelSlots := fun i =>
      if i = 0 then
        { hasSettings := true, role := .primary, settings := { name := ownName, psk := [2], uplinkEnabled := true } }
      else { hasSettings := true }
    channelHashes := fun i => if i = 0 then 0x57 else 0
    primaryIndex := 0
    chHash := 0x57 }

/-- What is heard on the channel "Own" in slot 1 is published under the name of slot 0. And what is published
as "Own" is passed on by a gateway whose slot "Own" does not permit it, because its slot 0 does. -/
theorem bridges_across_channels :
    (∃ after uplink, (gatewayAt 0x11 ownUplinkTable).step plainMqtt (dataCodec fun _ _ _ => 0)
        (envelopeCodec [heardEnvelope 0x57 CHANNEL_LONGFAST]) plainBoard
        (.call (.receive (heardFrame 0x57) (-90) 6 plainAround)) = some after ∧
      after.uplinks = [uplink] ∧ uplink.packet.channelIndex = 1 ∧
      channelsGetName ownUplinkTable.channelSlots 1 = ownName ∧ SharedChannel ownUplinkTable gatewayTable 1 1 ∧
      ¬BridgesPerChannel plainMqtt (envelopeCodec [heardEnvelope 0x57 CHANNEL_LONGFAST])
        (gatewayAt 0x22 gatewayTable).node ownName uplink.envelope) ∧
    ∃ after uplink, (gatewayAt 0x11 ownPrimaryTable).step plainMqtt (dataCodec fun _ _ _ => 0)
        (envelopeCodec [heardEnvelope 0x57 ownName]) plainBoard
        (.call (.receive (heardFrame 0x57) (-90) 6 plainAround)) = some after ∧
      after.uplinks = [uplink] ∧ uplink.envelope.channelId = some ownName ∧
      SharedChannel ownPrimaryTable gatewayTable 0 1 ∧
      ¬BridgesPerChannel plainMqtt (envelopeCodec [heardEnvelope 0x57 ownName])
        (gatewayAt 0x22 gatewayTable).node ownName uplink.envelope := by
  refine ⟨⟨_, _, rfl, rfl, rfl, rfl, ⟨by decide, by decide, rfl, rfl⟩, ?_⟩,
    ⟨_, _, rfl, rfl, rfl, ⟨by decide, by decide, rfl, rfl⟩, ?_⟩⟩
  · intro bridges
    have named : CHANNEL_LONGFAST = ownName := Option.some.inj bridges.1
    contradiction
  · intro bridges
    obtain ⟨name, same, slot, enabled, named, permits⟩ := bridges.2.mp ⟨_, rfl⟩
    have own : ownName = name := Option.some.inj same
    subst own
    have closed : ∀ slot : SlotIndex, (gatewayTable.channelSlots slot).role ≠ .disabled →
        ownName = channelsGetName gatewayTable.channelSlots slot →
        channelsDownlinkEnabled gatewayTable (UInt8.ofNat slot.val) = false := by decide
    have refused := closed slot enabled named
    have contrary : true = false := permits.symm.trans refused
    contradiction

end Meshtastic
