import Meshtastic.DataCodec
import Meshtastic.ModuleHandlers
import Meshtastic.NewEffects

/-! On which channel a node reacts. An acknowledgement and the reply of a module name the slot of the packet
they answer. The NodeInfo handler puts the slot's number where the wire hash belongs and names slot 0, so
its question goes out on slot 0, or wherever that number leads. -/

namespace Meshtastic
open Bytes

/-! ## The question of the NodeInfo handler -/

section
variable {mod : ModuleKconfig}

def ModuleState.asks (state : ModuleState mod) (outside : ModuleOutside) (nodeId : UInt32) (packet : Packet) : Bool :=
  let peer := (state.nodeinfoPeer packet.from_ outside.heardAt).2
  mod.nodeinfo && !strangeSource nodeId packet && packet.portnum ≠ PORT_NODEINFO && !peer.hasUser &&
    intervalElapsed peer.requestTimeValid peer.lastRequestMs outside.heardAt
      (mod.nodeinfoUnknownSuppressSec * MSEC_PER_SEC) &&
    outside.user.length ≤ MAX_PAYLOAD_LEN

def nodeinfoProbe (user : Octets) (primaryIndex : UInt8) (packet : Packet) : Packet :=
  modulePacket PORT_NODEINFO packet.from_ true
    (if packet.channelIndex ≠ CHANNEL_INDEX_INVALID then packet.channelIndex else primaryIndex) 0 user

theorem callOnPacket_moduleSection (outside : ModuleOutside) (nodeId : UInt32) (primaryIndex : UInt8)
    (state : ModuleState mod) (packet : Packet) :
    (callOnPacket (moduleSection outside nodeId primaryIndex) state packet).2 =
      if mod.nodeinfo then (nodeinfoOnPacket outside nodeId primaryIndex state packet).2.toList else [] := by
  unfold moduleSection
  cases mod.deviceTelemetry <;> cases mod.environmentTelemetry <;> cases mod.nodeinfo <;> cases mod.gnss <;>
    simp [callOnPacket]

theorem nodeinfoBuildPacket_toOption (dest : UInt32) (wantResponse : Bool) (channel : UInt8) (responseToId : UInt32)
    (user : Octets) :
    (nodeinfoBuildPacket dest wantResponse channel responseToId user).toOption.map ModulePacket.packet =
      if user.length ≤ MAX_PAYLOAD_LEN then
        some (modulePacket PORT_NODEINFO dest wantResponse channel responseToId user) else none := by
  unfold nodeinfoBuildPacket encodePayload
  by_cases long : user.length > MAX_PAYLOAD_LEN
  · rw [if_pos long, if_neg (Nat.not_le.mpr long)]
    rfl
  · rw [if_neg long, if_pos (Nat.not_lt.mp long)]
    rfl

theorem nodeinfoOnPacket_sends (outside : ModuleOutside) (nodeId : UInt32) (primaryIndex : UInt8)
    (state : ModuleState mod) (packet : Packet) (on : mod.nodeinfo = true) :
    (nodeinfoOnPacket outside nodeId primaryIndex state packet).2.map ModulePacket.packet =
      if state.asks outside nodeId packet then some (nodeinfoProbe outside.user primaryIndex packet) else none := by
  unfold nodeinfoOnPacket ModuleState.asks nodeinfoProbe
  by_cases strange : strangeSource nodeId packet = true
  · simp [strange]
  cases found : state.nodeinfoPeer packet.from_ outside.heardAt with
  | mk i peer =>
    by_cases port : packet.portnum = PORT_NODEINFO
    · simp [strange, port]
    · cases known : peer.hasUser with
      | true => simp [strange, port, known]
      | false =>
        cases elapsed : intervalElapsed peer.requestTimeValid peer.lastRequestMs outside.heardAt
            (mod.nodeinfoUnknownSuppressSec * MSEC_PER_SEC) with
        | false => simp [strange, port, known, elapsed]
        | true => simp [strange, port, known, elapsed, on, nodeinfoBuildPacket_toOption]

theorem ModuleState.react_probes (state : ModuleState mod) (outside : ModuleOutside) (nodeId : UInt32)
    (primaryIndex : UInt8) (packet : Packet) :
    (state.react outside nodeId primaryIndex packet).1.probes =
      (callOnPacket (moduleSection outside nodeId primaryIndex) state packet).2.map fun probe => (probe, outside.probe) := by
  unfold react
  simp only
  split_ifs
  · rfl
  · split <;> rfl

theorem ModuleState.react_asks {state : ModuleState mod} {outside : ModuleOutside} {nodeId : UInt32} {packet : Packet}
    (primaryIndex : UInt8) (asks : state.asks outside nodeId packet = true) :
    ∃ probe : ModulePacket, probe.packet = nodeinfoProbe outside.user primaryIndex packet ∧
      (state.react outside nodeId primaryIndex packet).1.probes = [(probe, outside.probe)] := by
  have on : mod.nodeinfo = true := by
    simp only [ModuleState.asks, Bool.and_eq_true] at asks
    exact asks.1.1.1.1.1
  have sends := nodeinfoOnPacket_sends outside nodeId primaryIndex state packet on
  rw [if_pos asks] at sends
  obtain ⟨probe, sent, same⟩ := Option.map_eq_some_iff.mp sends
  refine ⟨probe, same, ?_⟩
  rw [ModuleState.react_probes, callOnPacket_moduleSection, if_pos on, sent]
  rfl

theorem ModuleState.react_silent {state : ModuleState mod} {outside : ModuleOutside} {nodeId : UInt32} {packet : Packet}
    (primaryIndex : UInt8) (silent : state.asks outside nodeId packet ≠ true) :
    (state.react outside nodeId primaryIndex packet).1.probes = [] := by
  rw [ModuleState.react_probes, callOnPacket_moduleSection]
  split_ifs with on
  · have sends := nodeinfoOnPacket_sends outside nodeId primaryIndex state packet on
    rw [if_neg silent] at sends
    rw [Option.map_eq_none_iff.mp sends]
    rfl
  · rfl

end

/-! ## Slots -/

/-- The frame is encrypted with the key of a slot and stamped with its hash. -/
def SentOn (codec : Codec) (t : ChannelTable) (slot : SlotIndex) (local_ : Packet) (key wire : Octets) : Prop :=
  channelGetKey t.channelSlots t.primaryIndex slot = some (.ok key) ∧
    wire = (local_.header (t.channelHashes slot)).octets ++
      cipher codec key (packetNonce local_.id local_.from_) (codec.encodeData local_.data)

section
variable {codec : Codec} {t : ChannelTable} {nodedb : NodeDbGet} {local_ : Packet} {wire : Octets}

theorem buildWirePacket_sentOn (made : buildWirePacket codec t nodedb local_ = some (.ok wire)) :
    SentOn codec t (channelsResolveSendIndex t nodedb local_.to_ local_.channelIndex local_.channel) local_
      (wireKey t nodedb local_) wire := by
  obtain ⟨-, -, key, lookup, -, same⟩ := buildWirePacket_eq_ok made
  have chosen : wireKey t nodedb local_ = key := by
    unfold wireKey
    simp only [lookup]
  rw [chosen]
  exact ⟨lookup, same⟩

theorem SentOn.iff_same {slot other : SlotIndex} {key : Octets} (sent : SentOn codec t other local_ key wire) :
    SentOn codec t slot local_ key wire ↔
      channelGetKey t.channelSlots t.primaryIndex slot = some (.ok key) ∧
        t.channelHashes other = t.channelHashes slot := by
  constructor
  · intro also
    refine ⟨also.1, ?_⟩
    have headers := readHeader_octets (local_.header (t.channelHashes other))
      (cipher codec key (packetNonce local_.id local_.from_) (codec.encodeData local_.data))
    rw [← sent.2, also.2, readHeader_octets] at headers
    exact (congrArg (fun parsed => parsed.1.channel) (Option.some.inj headers)).symm
  · intro both
    refine ⟨both.1, ?_⟩
    rw [sent.2, both.2]

theorem channelsResolveSendIndex_slot {slot : SlotIndex} (enabled : (t.channelSlots slot).role ≠ .disabled)
    (dest : UInt32) (wireHash : UInt8) :
    channelsResolveSendIndex t nodedb dest (UInt8.ofNat slot.val) wireHash = slot := by
  unfold channelsResolveSendIndex
  rw [enabledSlot_ofNat enabled]

theorem buildWirePacket_of_key {key : Octets} (short : local_.payload.length ≤ MAX_PAYLOAD_LEN)
    (fits : (codec.encodeData local_.data).length ≤ PAYLOAD_MAX)
    (lookup : channelGetKey t.channelSlots t.primaryIndex
      (channelsResolveSendIndex t nodedb local_.to_ local_.channelIndex local_.channel) = some (.ok key))
    (size : key.length ≤ 32) : ∃ wire, buildWirePacket codec t nodedb local_ = some (.ok wire) := by
  obtain ⟨-, psk, expanded⟩ := channelGetKey_eq_ok lookup
  have sizes := expandPsk_length psk
  rw [← expanded] at sizes
  unfold buildWirePacket encodePacketData
  simp only [Nat.not_lt.mpr short, Nat.not_lt.mpr fits, if_false, lookup]
  unfold ctrCrypt
  by_cases clear : key.length = 0
  · simp only [clear, if_true]
    exact ⟨_, rfl⟩
  · have valid : key.length = 16 ∨ key.length = 24 ∨ key.length = 32 := by omega
    simp only [clear, valid, if_true, if_false]
    exact ⟨_, rfl⟩

end

/-! ## Answers -/

/-- Frames that are built are sent on the slot. -/
def OnSlot (codec : Codec) (t : ChannelTable) (slot : SlotIndex) : Effect → Prop
  | .built local_ key wire => SentOn codec t slot local_ key wire
  | _ => True

theorem onSlot_quiet {codec : Codec} {t : ChannelTable} {slot : SlotIndex} (effect : Effect)
    (quiet : ∀ local_ key wire, effect ≠ .built local_ key wire) : OnSlot codec t slot effect := by
  cases effect with
  | built local_ key wire => exact absurd rfl (quiet local_ key wire)
  | _ => trivial

section
variable {cfg : Kconfig} {codec : Codec} {t : ChannelTable} {node next : Node cfg} {slot : SlotIndex}

theorem sendPacket_onSlot {packet : Packet} {wait : Wait} {answer : Answer} {ret : Option Errno}
    (enabled : (t.channelSlots slot).role ≠ .disabled) (table : node.table = t)
    (names : packet.channelIndex = UInt8.ofNat slot.val)
    (sent : sendPacket codec answer node packet wait = some (ret, next)) : node.Emits (OnSlot codec t slot) next := by
  apply sendPacket_emits_of onSlot_quiet _ sent
  intro _ id wire made
  have kept : (node.fillPacket packet id).channelIndex = UInt8.ofNat slot.val := by
    simp only [Node.fillPacket, names, if_neg (slot_ne_invalid slot)]
  rw [table] at made ⊢
  have sentOn := buildWirePacket_sentOn made
  rw [kept, channelsResolveSendIndex_slot enabled] at sentOn
  exact sentOn

theorem routingSendAck_onSlot {req : Packet} {answer : Answer} {ret : Option Errno}
    (enabled : (t.channelSlots slot).role ≠ .disabled) (table : node.table = t)
    (heard : req.channelIndex = UInt8.ofNat slot.val)
    (sent : routingSendAck codec answer node req = some (ret, next)) : node.Emits (OnSlot codec t slot) next := by
  have drew : node.Emits (OnSlot codec t slot) node.allocatePacketId.2 := by
    rw [← node.allocatePacketId_eq]
    exact node.emits_drawId 0
  unfold routingSendAck at sent
  by_cases elsewhere : req.to_ ≠ node.nodeId
  · rw [if_pos elsewhere] at sent
    cases sent
    exact Node.Emits.refl node
  rw [if_neg elsewhere] at sent
  simp only at sent
  split_ifs at sent
  · cases sent
    exact drew
  · refine drew.trans (sendPacket_onSlot enabled (drew.table.trans table) ?_ sent)
    have inside : (UInt8.ofNat slot.val).toNat < MAX_CHANNELS := by
      rw [slot_toNat]
      exact slot.isLt
    simp only [meshPbPacket, Node.routingAck, heard, ne_eq, slot_ne_invalid slot, not_false_eq_true, if_true, inside]

theorem routingOnDecoded_onSlot {packet : Packet} {answer : Answer}
    (enabled : (t.channelSlots slot).role ≠ .disabled) (table : node.table = t)
    (heard : packet.channelIndex = UInt8.ofNat slot.val)
    (done : routingOnDecoded codec answer node packet = some next) : node.Emits (OnSlot codec t slot) next := by
  have settled : node.Emits (OnSlot codec t slot) (node.settle codec packet) := by
    unfold Node.settle
    split
    · exact node.emits_counters _ _ _
    · exact (node.emits_counters _ _ _).note trivial
  unfold routingOnDecoded at done
  by_cases ours : packetIsToUs node.nodeId packet = false ∨ packet.from_ = node.nodeId
  · rw [if_pos ours] at done
    cases done
    exact Node.Emits.refl node
  rw [if_neg ours] at done
  simp only at done
  split_ifs at done
  · obtain ⟨⟨ret, after⟩, acked, same⟩ := Option.map_eq_some_iff.mp done
    cases same
    exact settled.trans (routingSendAck_onSlot enabled (settled.table.trans table) heard acked)
  · cases done
    exact settled

theorem dispatchModules_replies {packet : Packet} {modules : Modules}
    (enabled : (t.channelSlots slot).role ≠ .disabled) (table : node.table = t)
    (heard : packet.channelIndex = UInt8.ofNat slot.val)
    (done : dispatchModules codec modules node packet = some next) :
    ∃ after, sendProbes codec node modules.probes = some after ∧ after.Emits (OnSlot codec t slot) next := by
  unfold dispatchModules at done
  cases probed : sendProbes codec node modules.probes with
  | none =>
    rw [probed] at done
    contradiction
  | some after =>
    refine ⟨after, rfl, ?_⟩
    have kept : after.table = t := (sendProbes_emits probed).table.trans table
    rw [probed] at done
    simp only at done
    split_ifs at done
    · cases done
      exact Node.Emits.refl _
    · cases answered : modules.reply with
      | none =>
        rw [answered] at done
        cases done
        exact Node.Emits.refl _
      | some reply =>
        rw [answered] at done
        obtain ⟨⟨ret, last⟩, sent, same⟩ := Option.map_eq_some_iff.mp done
        cases same
        apply sendPacket_onSlot enabled kept _ sent
        simp only [packetSetReplyTo, heard, ne_eq, slot_ne_invalid slot, not_false_eq_true, if_true]

/-! ## The question -/

def probeSlot (t : ChannelTable) (nodedb : NodeDbGet) (sender : UInt32) (slot : SlotIndex) : SlotIndex :=
  channelsResolveSendIndex t nodedb sender 0 (UInt8.ofNat slot.val)

/-- The slot of the question has the key and the hash of the given slot, unless its frame cannot be built. -/
def ProbeStays (codec : Codec) (node : Node cfg) (outside : ModuleOutside) (sender : UInt32) (slot : SlotIndex) : Prop :=
  node.initialized = true →
    (codec.encodeData { portnum := PORT_NODEINFO, payload := outside.user, wantResponse := true }).length ≤ PAYLOAD_MAX →
    ∀ key, channelGetKey node.table.channelSlots node.table.primaryIndex
        (probeSlot node.table outside.probe.nodedb sender slot) = some (.ok key) → key.length ≤ 32 →
      channelGetKey node.table.channelSlots node.table.primaryIndex slot = some (.ok key) ∧
        node.table.channelHashes (probeSlot node.table outside.probe.nodedb sender slot) = node.table.channelHashes slot

theorem ProbeStays.of_alike {start : Node cfg} {outside : ModuleOutside} {sender : UInt32} (alike : start.Alike node) :
    ProbeStays codec node outside sender slot ↔ ProbeStays codec start outside sender slot := by
  unfold ProbeStays
  rw [alike.initialized, alike.table]

/-- The question goes out on the slot exactly when slot 0, or wherever the number leads, stands for it. -/
theorem sendProbe_onSlot_iff {outside : ModuleOutside} {packet : Packet} {ret : Option Errno}
    (heard : packet.channelIndex = UInt8.ofNat slot.val) (known : packet.from_ ≠ 0)
    (short : outside.user.length ≤ MAX_PAYLOAD_LEN) (primaryIndex : UInt8)
    (sent : sendPacket codec outside.probe node (nodeinfoProbe outside.user primaryIndex packet) .noWait =
      some (ret, next)) :
    (∀ effect ∈ node.newEffects next, OnSlot codec node.table slot effect) ↔
      ProbeStays codec node outside packet.from_ slot := by
  have resolved : ∀ id, channelsResolveSendIndex node.table outside.probe.nodedb
      (node.fillPacket (nodeinfoProbe outside.user primaryIndex packet) id).to_
      (node.fillPacket (nodeinfoProbe outside.user primaryIndex packet) id).channelIndex
      (node.fillPacket (nodeinfoProbe outside.user primaryIndex packet) id).channel =
        probeSlot node.table outside.probe.nodedb packet.from_ slot := by
    intro id
    simp only [Node.fillPacket, nodeinfoProbe, modulePacket, heard, ne_eq, slot_ne_invalid slot, not_false_eq_true,
      if_true]
    rfl
  constructor
  · intro stays ready fits key lookup size
    have buildable : ∃ wire, buildWirePacket codec node.table outside.probe.nodedb
        (node.fillPacket (nodeinfoProbe outside.user primaryIndex packet) (node.drawId 0).1) = some (.ok wire) :=
      buildWirePacket_of_key short fits ((resolved _).symm ▸ lookup) size
    obtain ⟨wire, made⟩ := buildable
    have onSlot := stays _ (sendPacket_builds ready known made sent)
    have sentOn := buildWirePacket_sentOn made
    rw [resolved] at sentOn
    have both := sentOn.iff_same.mp onSlot
    rw [Except.ok.inj (Option.some.inj (sentOn.1.symm.trans lookup))] at both
    exact both
  · intro stays
    apply Node.Emits.newEffects
    apply sendPacket_emits_of onSlot_quiet _ sent
    intro ready id wire made
    obtain ⟨-, fits, key, lookup, sizes, -⟩ := buildWirePacket_eq_ok made
    have sentOn := buildWirePacket_sentOn made
    rw [resolved] at sentOn lookup
    have same := Except.ok.inj (Option.some.inj (sentOn.1.symm.trans lookup))
    have size : (wireKey node.table outside.probe.nodedb
        (node.fillPacket (nodeinfoProbe outside.user primaryIndex packet) id)).length ≤ 32 := by
      rw [same]
      omega
    exact sentOn.iff_same.mpr (stays ready fits _ sentOn.1 size)

theorem sendProbes_onSlot_iff {mod : ModuleKconfig} (state : ModuleState mod) (outside : ModuleOutside) {packet : Packet}
    (heard : packet.channelIndex = UInt8.ofNat slot.val) (nodeId : UInt32) (primaryIndex : UInt8)
    (sent : sendProbes codec node (state.react outside nodeId primaryIndex packet).1.probes = some next) :
    (∀ effect ∈ node.newEffects next, OnSlot codec node.table slot effect) ↔
      (state.asks outside nodeId packet = true → ProbeStays codec node outside packet.from_ slot) := by
  by_cases asks : state.asks outside nodeId packet = true
  · obtain ⟨probe, same, probes⟩ := state.react_asks primaryIndex asks
    rw [probes, sendProbes] at sent
    split at sent
    next => contradiction
    next ret after probed =>
      cases sent
      rw [same] at probed
      have parts := asks
      simp only [ModuleState.asks, strangeSource, Bool.and_eq_true, Bool.not_eq_true', Bool.or_eq_false_iff,
        decide_eq_false_iff_not, decide_eq_true_eq] at parts
      rw [sendProbe_onSlot_iff heard parts.1.1.1.1.2.1 parts.2 primaryIndex probed]
      exact ⟨fun stays _ => stays, fun stays => stays asks⟩
  · rw [state.react_silent primaryIndex asks] at sent
    cases sent
    exact iff_of_true (Node.Emits.refl node).newEffects (fun asked => absurd asked asks)

end

/-- The node, with its modules, reacts to a packet that was decoded on an enabled slot on that slot, exactly when
the NodeInfo handler does not ask the sender, or its question stays there. Acknowledging a duplicate is always on
the slot. -/
theorem reactions_on_channel_iff (cfg : Kconfig) (mod : ModuleKconfig) (codec : Codec) (node : Node cfg)
    (state : ModuleState mod) (outside : ModuleOutside) (around : Surroundings) (packet : Packet)
    (wire : Option Octets) (slot : SlotIndex) (heard : packet.channelIndex = UInt8.ofNat slot.val)
    (enabled : (node.table.channelSlots slot).role ≠ .disabled) :
    (∀ next, handleDecoded codec
        { around with modules := (state.react outside node.nodeId (channelsPrimaryIndex node.table) packet).1 }
        node packet wire = some next →
      ((∀ effect ∈ node.newEffects next, OnSlot codec node.table slot effect) ↔
        (state.asks outside node.nodeId packet = true → ProbeStays codec node outside packet.from_ slot))) ∧
    (∀ next, routingOnDecoded codec around.ack node packet = some next →
      ∀ effect ∈ node.newEffects next, OnSlot codec node.table slot effect) := by
  constructor
  · intro next done
    unfold handleDecoded at done
    have hearing : node.Emits (OnSlot codec node.table slot) (node.mqttOnRx packet wire) := node.emits_mqttOnRx trivial
    cases routed : routingOnDecoded codec around.ack (node.mqttOnRx packet wire) packet with
    | none =>
      rw [routed] at done
      contradiction
    | some after =>
      rw [routed] at done
      have answering := hearing.trans (routingOnDecoded_onSlot enabled hearing.table heard routed)
      obtain ⟨asked, probed, replying⟩ := dispatchModules_replies enabled answering.table heard done
      have probing := sendProbes_onSlot_iff state outside heard node.nodeId (channelsPrimaryIndex node.table) probed
      have asking := sendProbes_emits probed
      have later : after.Emits (fun _ => True) next :=
        (asking.mono fun _ _ => trivial).trans (replying.mono fun _ _ => trivial)
      rw [answering.newEffects_trans later, asking.newEffects_trans replying, List.forall_mem_append,
        List.forall_mem_append, and_iff_right replying.newEffects, and_iff_left answering.newEffects]
      rw [answering.table, ProbeStays.of_alike answering.toAlike] at probing
      exact probing
  · intro next done
    exact (routingOnDecoded_onSlot enabled rfl heard done).newEffects

def nodeinfoOnly : ModuleKconfig where
  nodeinfo := true
  nodeinfoPeerCacheSize := 4
  nodeinfoUnknownSuppressSec := 600
  nodeinfoReplySuppressSec := 43200
  gnss := false
  gnssReplySuppressSec := 180
  deviceTelemetry := false
  environmentTelemetry := false
  telemetryReplySuppressSec := 180
  nodeinfoPeerCacheSize_range := leastCapacity_range
  nodeinfoUnknownSuppressSec_range := by decide
  nodeinfoReplySuppressSec_range := by decide
  gnssReplySuppressSec_range := by decide
  telemetryReplySuppressSec_range := by decide

def plainOutside : ModuleOutside :=
  { user := [0x12, 0x01, 0x41], decodesUser := fun _ => true, fix := none, decodeTelemetry := fun _ => none,
    deviceMetrics := .error .enoent, environment := .error .enoent, heardAt := 0, nodeinfoAt := 0, positionAt := 0,
    deviceAt := 0, environmentAt := 0, probe := plainAnswer, reply := plainAnswer }

def secondChannel : Channel :=
  { index := 2, hasSettings := true, role := .secondary, settings := { psk := 0x55 :: List.replicate 15 0 } }

def twoChannels : ChannelTable :=
  { plainTable with
    channelSlots := Function.update plainTable.channelSlots 2 secondChannel
    channelHashes := Function.update plainTable.channelHashes 2 0x5f }

example : ∀ t ∈ channelsSetSlot plainTable 2 secondChannel, t.channelSlots = twoChannels.channelSlots ∧
    t.channelHashes = twoChannels.channelHashes ∧ t.chHash = twoChannels.chHash := by decide

def twoChannelNode : Node smallKconfig :=
  { Node.powerOn smallKconfig twoChannels with nodeId := 0x11, initialized := true }

def heardText (slot hash : UInt8) : Packet :=
  { from_ := 0x33, to_ := NODE_BROADCAST, id := 9, portnum := PORT_TEXT_MESSAGE, payload := [0x68, 0x69], hopLimit := 3,
    hopStart := 3, channel := hash, channelIndex := slot, rssi := -90, snr := 6 }

def textFrame (hash : UInt8) : Octets :=
  { dest := NODE_BROADCAST, src := 0x33, id := 9, flags := 0x63, channel := hash, nextHop := 0, relayNode := 0 :
    WireHeader }.octets ++ [0x08, 1, 0x12, 0x02, 0x68, 0x69]

theorem reactions_on_channel_slot0 :
    ∃ next, handleDecoded (dataCodec fun _ _ _ => 0)
        { plainAround with
          modules := (ModuleState.react ({} : ModuleState nodeinfoOnly) plainOutside 0x11 0 (heardText 0 0x08)).1 }
        twoChannelNode (heardText 0 0x08) (some (textFrame 0x08)) = some next ∧
      (∃ local_ key wire, .built local_ key wire ∈ twoChannelNode.newEffects next) ∧
      ∀ effect ∈ twoChannelNode.newEffects next, OnSlot (dataCodec fun _ _ _ => 0) twoChannels 0 effect := by
  refine ⟨_, rfl, ⟨_, _, _, .tail _ (.head _)⟩, ?_⟩
  apply ((reactions_on_channel_iff smallKconfig nodeinfoOnly (dataCodec fun _ _ _ => 0) twoChannelNode {} plainOutside
    plainAround (heardText 0 0x08) (some (textFrame 0x08)) 0 rfl (by decide)).1 _ rfl).mpr
  intro _ _ _ key lookup _
  exact ⟨lookup, rfl⟩

/-- A stranger is heard on slot 2 and asked on slot 0. -/
theorem reaction_on_other_channel :
    ∃ next, twoChannelNode.tryDecode (dataCodec fun _ _ _ => 0) (fun _ => none) (textFrame 0x5f) (-90) 6 =
        some (.ok (heardText 2 0x5f, true)) ∧
      handleDecoded (dataCodec fun _ _ _ => 0)
        { plainAround with
          modules := (ModuleState.react ({} : ModuleState nodeinfoOnly) plainOutside 0x11 0 (heardText 2 0x5f)).1 }
        twoChannelNode (heardText 2 0x5f) (some (textFrame 0x5f)) = some next ∧
      (twoChannels.channelSlots 2).role ≠ .disabled ∧
      ∃ local_ key wire, .built local_ key wire ∈ twoChannelNode.newEffects next ∧
        SentOn (dataCodec fun _ _ _ => 0) twoChannels 0 local_ key wire ∧
        ¬SentOn (dataCodec fun _ _ _ => 0) twoChannels 2 local_ key wire := by
  refine ⟨_, rfl, rfl, by decide, _, _, _, .tail _ (.head _), ⟨rfl, rfl⟩, ?_⟩
  intro same
  exact absurd same.1 (by decide)

end Meshtastic
