import Meshtastic.Mqtt
import Meshtastic.NodeEffects
import Meshtastic.Lib.Run

/-! What reaches the publish queue of a gateway: nothing that has come from MQTT, and nothing of a channel
that has not agreed to it. -/

namespace Meshtastic
open Bytes

section
variable {cfg : Kconfig} {mq : MqttConfig} {codec : Codec} {envelopes : EnvelopeCodec} {board : Board}

/-! ## What one hook queues -/

theorem mqttUplinkEnvelope_eq_some {node : Node cfg} {packet : Packet} {wire : Octets} {envelope : ServiceEnvelope}
    (made : mqttUplinkEnvelope mq node packet wire = some envelope) :
    channelsUplinkEnabled node.table (mqttUplinkIndex node.table packet) = true ∧ packet.viaMqtt = false ∧
    ∃ mesh, (if mq.encryptionEnabled then mqttMeshFromWire wire else packetToMeshPb packet) = .ok mesh ∧
      envelope =
        { packet := some mesh
          channelId := some (runtimeChannelName node.table)
          gatewayId := some (mqttNodeIdStr node.nodeId) } := by
  unfold mqttUplinkEnvelope at made
  by_cases empty : wire.length = 0
  · simp [empty] at made
  by_cases refused : channelsUplinkEnabled node.table (mqttUplinkIndex node.table packet) = false
  · simp [refused] at made
  by_cases bridged : packet.viaMqtt = true
  · simp [bridged] at made
  rw [if_neg empty, if_neg refused, if_neg bridged] at made
  refine ⟨by simpa using refused, by simpa using bridged, ?_⟩
  cases carried : if mq.encryptionEnabled then mqttMeshFromWire wire else packetToMeshPb packet with
  | error err =>
    rw [carried] at made
    split_ifs at made
  | ok mesh =>
    rw [carried] at made
    split_ifs at made
    exact ⟨mesh, rfl, (Option.some.inj made).symm⟩

structure Uplink.QueuedBy (mq : MqttConfig) (uplink : Uplink cfg) (effect : Effect) : Prop where
  hook : (effect = .mqttOnTx uplink.packet uplink.wire ∧ uplink.packet.from_ = uplink.node.nodeId) ∨
    (effect = .mqttOnRx uplink.packet (some uplink.wire) ∧ uplink.packet.from_ ≠ uplink.node.nodeId)
  envelope : mqttUplinkEnvelope mq uplink.node uplink.packet uplink.wire = some uplink.envelope

def Uplink.entry (mq : MqttConfig) (envelopes : EnvelopeCodec) (uplink : Uplink cfg) : MqttPubEntry :=
  ⟨mqttBuildPublishTopic mq uplink.node.table uplink.node.nodeId, envelopes.encode uplink.envelope⟩

/-- What a stretch of a call adds to a gateway: uplinks of some kind, and their entries behind what is left of the
queue. -/
structure Gateway.Adds (mq : MqttConfig) (envelopes : EnvelopeCodec) (kind : Uplink cfg → Prop)
    (before after : Gateway cfg) : Prop where
  node : after.node = before.node
  grown : ∃ new, after.uplinks = new ++ before.uplinks ∧ (∀ uplink ∈ new, kind uplink) ∧
    after.queue <:+ before.queue ++ new.reverse.map (Uplink.entry mq envelopes)

theorem Gateway.Adds.of_queue {kind : Uplink cfg → Prop} {before after : Gateway cfg} (node : after.node = before.node)
    (uplinks : after.uplinks = before.uplinks) (queue : after.queue <:+ before.queue) :
    before.Adds mq envelopes kind after := by
  refine ⟨node, [], uplinks, fun _ member => False.elim (List.not_mem_nil member), ?_⟩
  rwa [List.reverse_nil, List.map_nil, List.append_nil]

theorem Gateway.Adds.refl {kind : Uplink cfg → Prop} (gateway : Gateway cfg) : gateway.Adds mq envelopes kind gateway :=
  .of_queue rfl rfl (List.suffix_refl _)

theorem Gateway.Adds.trans {kind : Uplink cfg → Prop} {before mid after : Gateway cfg}
    (first : before.Adds mq envelopes kind mid) (second : mid.Adds mq envelopes kind after) :
    before.Adds mq envelopes kind after := by
  obtain ⟨older, before, fine, lost, left⟩ := first.grown
  obtain ⟨newer, after, good, suffix⟩ := second.grown
  refine ⟨second.node.trans first.node, newer ++ older, by rw [after, before, List.append_assoc],
    List.forall_mem_append.mpr ⟨good, fine⟩, suffix.trans ⟨lost, ?_⟩⟩
  rw [← List.append_assoc, left, List.append_assoc, List.reverse_append, List.map_append]

theorem mqttMakeRoom_suffix (queue : List MqttPubEntry) : mqttMakeRoom mq queue <:+ queue := by
  unfold mqttMakeRoom
  split_ifs
  · exact List.tail_suffix queue
  · exact List.suffix_refl queue

theorem mqttQueueUplink_adds {gateway : Gateway cfg} {request : Request cfg} {packet : Packet} {wire : Octets}
    {kind : Uplink cfg → Prop}
    (fine : ∀ envelope, mqttUplinkEnvelope mq gateway.node packet wire = some envelope →
      kind ⟨packet, wire, envelope, gateway.node, request⟩) :
    gateway.Adds mq envelopes kind (mqttQueueUplink mq envelopes request gateway packet wire) := by
  unfold mqttQueueUplink
  cases made : mqttUplinkEnvelope mq gateway.node packet wire with
  | none => exact Gateway.Adds.refl gateway
  | some envelope =>
    simp only
    split_ifs
    · exact .of_queue rfl rfl (mqttMakeRoom_suffix gateway.queue)
    · refine ⟨rfl, [_], rfl, ?_, ?_⟩
      · intro uplink member
        rw [List.mem_singleton.mp member]
        exact fine envelope made
      · obtain ⟨lost, left⟩ := mqttMakeRoom_suffix gateway.queue
        exact ⟨lost, by rw [← List.append_assoc, left]; rfl⟩

theorem mqttHook_adds {gateway : Gateway cfg} {request : Request cfg} {effect : Effect} {kind : Uplink cfg → Prop}
    (fine : ∀ uplink, uplink.node = gateway.node → uplink.request = request → uplink.QueuedBy mq effect → kind uplink) :
    gateway.Adds mq envelopes kind (mqttHook mq envelopes request gateway effect) := by
  cases effect with
  | mqttOnTx packet wire =>
    simp only [mqttHook]
    split_ifs with skipped
    · exact Gateway.Adds.refl gateway
    · have own : packet.from_ = gateway.node.nodeId := by
        by_contra foreign
        exact skipped (Or.inr foreign)
      exact mqttQueueUplink_adds fun envelope made => fine _ rfl rfl ⟨Or.inl ⟨rfl, own⟩, made⟩
  | mqttOnRx packet wire =>
    cases wire with
    | none => exact Gateway.Adds.refl gateway
    | some wire =>
      simp only [mqttHook]
      split_ifs with skipped
      · exact Gateway.Adds.refl gateway
      · have foreign : packet.from_ ≠ gateway.node.nodeId := fun own => skipped (Or.inr own)
        exact mqttQueueUplink_adds fun envelope made => fine _ rfl rfl ⟨Or.inr ⟨rfl, foreign⟩, made⟩
  | _ => exact Gateway.Adds.refl gateway

theorem foldl_mqttHook_adds {request : Request cfg} {kind : Uplink cfg → Prop} (effects : List Effect)
    (gateway : Gateway cfg)
    (fine : ∀ uplink, ∀ effect ∈ effects, uplink.node = gateway.node → uplink.request = request →
      uplink.QueuedBy mq effect → kind uplink) :
    gateway.Adds mq envelopes kind (effects.foldl (mqttHook mq envelopes request) gateway) := by
  induction effects generalizing gateway with
  | nil => exact Gateway.Adds.refl gateway
  | cons effect rest ih =>
    have first : gateway.Adds mq envelopes kind (mqttHook mq envelopes request gateway effect) :=
      mqttHook_adds fun uplink => fine uplink effect List.mem_cons_self
    refine first.trans (ih _ ?_)
    intro uplink later member same
    exact fine uplink later (List.mem_cons_of_mem _ member) (same.trans first.node)

/-! ## Where a queued frame comes from -/

/-- How the frame of an uplink came about. -/
inductive Uplink.Source (codec : Codec) (uplink : Uplink cfg) : Prop
  | sent {packet : Packet} {wait : Wait} {answer : Answer} (asked : uplink.request = .send packet wait answer)
      (sending : uplink.node.Sending codec packet uplink.packet uplink.wire)
  | phone {mesh : MeshPacket} {answer : Answer} {data : Data} (asked : uplink.request = .phone mesh answer)
      (payload : mesh.payload = .decoded data)
      (sending : uplink.node.Sending codec (meshPbPacket mesh data) uplink.packet uplink.wire)
  | encrypted {mesh : MeshPacket} {answer : Answer} {enc : Octets} {id : UInt32} {hopLimit hopStart : UInt8}
      (asked : uplink.request = .phone mesh answer) (payload : mesh.payload = .encrypted enc)
      (own : uplink.packet.from_ = uplink.node.nodeId)
      (packet : uplink.packet =
        meshPbTxPacket mesh (uplink.node.meshPbHeader mesh id hopLimit hopStart) hopLimit hopStart)
      (wire : uplink.wire = (uplink.node.meshPbHeader mesh id hopLimit hopStart).octets ++ enc)
  | ack {req : Packet} {id : UInt32} {payload : Octets} (decoded : uplink.node.decodes codec uplink.request = some req)
      (toUs : req.to_ = uplink.node.nodeId) (foreign : req.from_ ≠ uplink.node.nodeId)
      (sending : uplink.node.Sending codec (uplink.node.ackPacket req id payload) uplink.packet uplink.wire)
  | heard (decoded : uplink.node.decodes codec uplink.request = some uplink.packet)
      (frame : uplink.request.frame = some uplink.wire) (foreign : uplink.packet.from_ ≠ uplink.node.nodeId)

theorem Node.Alike.symm {node next : Node cfg} (alike : node.Alike next) : next.Alike node where
  nodeId := alike.nodeId.symm
  initialized := alike.initialized.symm
  table := alike.table.symm
  hopLimit := alike.hopLimit.symm
  deviceRole := alike.deviceRole.symm
  rebroadcastMode := alike.rebroadcastMode.symm

theorem Node.Alike.decodes {node next : Node cfg} (alike : node.Alike next) (request : Request cfg) :
    next.decodes codec request = node.decodes codec request := by
  cases request with
  | receive frame rssi snr around => simp only [Node.decodes, alike.tryDecode]
  | inject mesh around => simp only [Node.decodes, alike.table]
  | _ => rfl

theorem Node.SendEffect.onTx {node : Node cfg} {packet local_ : Packet} {announced : Bool} {wire : Octets}
    (fine : node.SendEffect codec packet announced (.mqttOnTx local_ wire)) :
    node.Sending codec packet local_ wire ∧ announced = true := by
  cases fine with
  | hook sending waits => exact ⟨sending, waits⟩

theorem Node.EncryptedEffect.onTx {node : Node cfg} {mesh : MeshPacket} {enc wire : Octets} {packet : Packet}
    (fine : node.EncryptedEffect mesh enc (.mqttOnTx packet wire)) :
    ∃ id hopLimit hopStart,
      packet = meshPbTxPacket mesh (node.meshPbHeader mesh id hopLimit hopStart) hopLimit hopStart ∧
      wire = (node.meshPbHeader mesh id hopLimit hopStart).octets ++ enc := by
  generalize same : Effect.mqttOnTx packet wire = effect at fine
  cases fine with
  | handed id hopLimit hopStart fits => cases same
  | hook id hopLimit hopStart =>
    injection same with packets wires
    exact ⟨id, hopLimit, hopStart, packets, wires⟩

theorem Node.MeshEffect.onTx_viaMqtt {node : Node cfg} {mesh : MeshPacket} {packet : Packet} {wire : Octets}
    (fine : node.MeshEffect codec mesh (.mqttOnTx packet wire)) : packet.viaMqtt = mesh.viaMqtt := by
  cases fine with
  | decoded payload fine =>
    obtain ⟨sending, -⟩ := fine.onTx
    obtain ⟨id, -, filled⟩ := sending.filled
    rw [filled]
    rfl
  | encrypted payload fine =>
    obtain ⟨id, hopLimit, hopStart, same, -⟩ := fine.onTx
    rw [same]
    rfl

theorem Node.MeshEffect.not_onRx {node : Node cfg} {mesh : MeshPacket} {packet : Packet} {wire : Option Octets} :
    ¬node.MeshEffect codec mesh (.mqttOnRx packet wire) := by
  intro fine
  cases fine with
  | decoded payload fine => cases fine
  | encrypted payload fine => cases fine

/-- An announced transmission that is not marked as coming from MQTT is one of the node's own packets. -/
theorem Uplink.source_of_onTx {uplink : Uplink cfg} {before : Node cfg} (native : uplink.packet.viaMqtt = false)
    (own : uplink.packet.from_ = uplink.node.nodeId) (alike : before.Alike uplink.node)
    (effects : before.Effects codec uplink.request (.mqttOnTx uplink.packet uplink.wire)) : uplink.Source codec := by
  have back := alike.symm
  cases effects with
  | send asked fine => exact .sent asked (fine.onTx.1.of_alike back)
  | phone asked fine =>
    cases fine with
    | decoded payload fine => exact .phone asked payload (fine.onTx.1.of_alike back)
    | encrypted payload fine =>
      obtain ⟨id, hopLimit, hopStart, packet, wire⟩ := fine.onTx
      rw [← alike.meshPbHeader] at packet wire
      exact .encrypted asked payload own packet wire
  | inject asked fine =>
    rw [fine.onTx_viaMqtt] at native
    contradiction
  | handle heard fine =>
    cases fine with
    | ack toUs foreign asks fine =>
      rw [← alike.decodes] at heard
      have sending := fine.onTx.1.of_alike back
      have same : ∀ req id payload, before.ackPacket req id payload = uplink.node.ackPacket req id payload := by
        intro req id payload
        simp only [Node.ackPacket, alike.routingAck]
      rw [same] at sending
      exact .ack heard (toUs.trans alike.nodeId.symm) (fun own => foreign (own.trans alike.nodeId)) sending
    | module fine =>
      cases fine with
      | sent unsent port fine =>
        have waits := fine.onTx.2
        contradiction

/-- An announced reception is that of the frame that was heard. -/
theorem Uplink.source_of_onRx {uplink : Uplink cfg} {before : Node cfg}
    (foreign : uplink.packet.from_ ≠ uplink.node.nodeId) (alike : before.Alike uplink.node)
    (effects : before.Effects codec uplink.request (.mqttOnRx uplink.packet (some uplink.wire))) :
    uplink.Source codec := by
  cases effects with
  | send asked fine => cases fine
  | phone asked fine => exact False.elim (Node.MeshEffect.not_onRx fine)
  | inject asked fine => exact False.elim (Node.MeshEffect.not_onRx fine)
  | handle heard fine =>
    generalize same : Effect.mqttOnRx uplink.packet (some uplink.wire) = effect at fine
    cases fine with
    | event => cases same
    | heard =>
      injection same with packets wires
      rw [← packets, ← alike.decodes] at heard
      exact .heard heard wires.symm foreign
    | ack toUs asker asks fine =>
      subst same
      cases fine
    | module fine =>
      subst same
      cases fine with
      | sent unsent port fine => cases fine

theorem Uplink.QueuedBy.source {uplink : Uplink cfg} {effect : Effect} {before : Node cfg}
    (queued : uplink.QueuedBy mq effect) (alike : before.Alike uplink.node)
    (effects : before.Effects codec uplink.request effect) : uplink.Source codec := by
  have native : uplink.packet.viaMqtt = false := (mqttUplinkEnvelope_eq_some queued.envelope).2.1
  rcases queued.hook with ⟨onTx, own⟩ | ⟨onRx, foreign⟩
  · subst onTx
    exact Uplink.source_of_onTx native own alike effects
  · subst onRx
    exact Uplink.source_of_onRx foreign alike effects

structure Uplink.MadeBy (mq : MqttConfig) (codec : Codec) (node : Node cfg) (request : Request cfg)
    (uplink : Uplink cfg) : Prop where
  request : uplink.request = request
  alike : node.Alike uplink.node
  source : uplink.Source codec
  queued : ∃ effect, uplink.QueuedBy mq effect

theorem Gateway.call_adds {gateway after : Gateway cfg} {request : Request cfg}
    (taken : gateway.call mq codec envelopes board request = some after) :
    ∃ next, gateway.node.cleared.step codec board request = some next ∧
      { gateway with node := next }.Adds mq envelopes (Uplink.MadeBy mq codec gateway.node request) after := by
  obtain ⟨next, done, same⟩ := Option.map_eq_some_iff.mp taken
  refine ⟨next, done, ?_⟩
  rw [← same]
  apply foldl_mqttHook_adds
  intro uplink effect member node asked queued
  obtain ⟨record, present, here⟩ := List.mem_map.mp member
  rw [List.mem_reverse] at present
  by_cases admin : request.isAdmin = true
  · rw [Node.step_admin_log admin done] at present
    exact False.elim (List.not_mem_nil present)
  have running : request.isAdmin = false := by simpa using admin
  have alike := Node.step_alike running done
  obtain ⟨below, fine, log⟩ := Node.step_log rfl running done
  rw [log] at present
  have effects : gateway.node.cleared.Effects codec request effect := by
    cases relays : gateway.node.cleared.relays codec request with
    | none =>
      rw [relays] at present
      exact here ▸ fine record present
    | some wire =>
      rw [relays] at present
      rcases List.mem_cons.mp present with top | lower
      · -- the relayed frame on top of the log is no hook
        have handed : effect = .handed wire := by rw [← here, top]
        rcases queued.hook with ⟨onTx, -⟩ | ⟨onRx, -⟩
        · rw [handed] at onTx
          contradiction
        · rw [handed] at onRx
          contradiction
      · exact here ▸ fine record lower
  rw [← asked] at effects
  have toThere : gateway.node.cleared.Alike uplink.node := by
    rw [node]
    exact alike
  have same : gateway.node.Alike uplink.node := ⟨toThere.nodeId, toThere.initialized, toThere.table, toThere.hopLimit,
    toThere.deviceRole, toThere.rebroadcastMode⟩
  exact ⟨asked, same, queued.source toThere effects, effect, queued⟩

def Gateway.calls (mq : MqttConfig) (envelopes : EnvelopeCodec) (gateway : Gateway cfg) :
    GatewayRequest cfg → Option (Request cfg)
  | .call request => some request
  | .publish payload around => (mqttHandlePublish mq envelopes gateway.node payload).map (.inject · around)
  | _ => none

/-- What a step adds: uplinks of the call it comes to, and behind what is left of the queue their entries, or a map
report. -/
def Gateway.Gains (mq : MqttConfig) (codec : Codec) (envelopes : EnvelopeCodec) (gateway : Gateway cfg)
    (request : GatewayRequest cfg) (after : Gateway cfg) : Prop :=
  ∃ new added, after.uplinks = new ++ gateway.uplinks ∧
    (∀ uplink ∈ new, ∃ call, gateway.calls mq envelopes request = some call ∧
      uplink.MadeBy mq codec gateway.node call) ∧
    after.queue <:+ gateway.queue ++ added ∧
    (added = new.reverse.map (Uplink.entry mq envelopes) ∨
      ∃ topic payload, request = .report topic payload ∧
        added = [⟨(topic.truncate (MQTT_TOPIC_SIZE - 1)).bytes, payload⟩])

theorem Gateway.Gains.of_call {gateway after : Gateway cfg} {request : GatewayRequest cfg} {call : Request cfg}
    (calls : gateway.calls mq envelopes request = some call)
    (done : gateway.call mq codec envelopes board call = some after) :
    gateway.Gains mq codec envelopes request after := by
  obtain ⟨next, -, adds⟩ := Gateway.call_adds done
  obtain ⟨new, same, made, suffix⟩ := adds.grown
  exact ⟨new, _, same, fun uplink member => ⟨call, calls, made uplink member⟩, suffix, Or.inl rfl⟩

theorem Gateway.Gains.of_queue {gateway after : Gateway cfg} {request : GatewayRequest cfg}
    (same : after.uplinks = gateway.uplinks) (queue : after.queue <:+ gateway.queue) :
    gateway.Gains mq codec envelopes request after :=
  ⟨[], [], same, fun _ member => False.elim (List.not_mem_nil member), by rwa [List.append_nil], Or.inl rfl⟩

theorem Gateway.step_gains {gateway after : Gateway cfg} {request : GatewayRequest cfg}
    (taken : gateway.step mq codec envelopes board request = some after) :
    gateway.Gains mq codec envelopes request after := by
  cases request with
  | call request => exact .of_call rfl taken
  | publish payload around =>
    simp only [step] at taken
    cases handled : mqttHandlePublish mq envelopes gateway.node payload with
    | none =>
      rw [handled] at taken
      cases taken
      exact .of_queue rfl (List.suffix_refl _)
    | some mesh =>
      rw [handled] at taken
      exact .of_call (by rw [calls, handled, Option.map_some]) taken
  | report topic payload =>
    cases taken
    unfold mqttQueuePublish
    split_ifs
    · exact .of_queue rfl (List.suffix_refl _)
    · obtain ⟨lost, left⟩ := mqttMakeRoom_suffix gateway.queue
      refine ⟨[], _, rfl, fun _ member => False.elim (List.not_mem_nil member), ?_, Or.inr ⟨topic, payload, rfl, rfl⟩⟩
      exact ⟨lost, by rw [← List.append_assoc, left]⟩
  | drain published =>
    cases taken
    exact .of_queue rfl (List.drop_suffix _ _)

/-- What a step leaves in the queue is the rear of the old queue with the entries of the step's own uplinks behind it,
each an uplink of the call it comes to, or with a map report behind it. -/
def Gateway.QueuesUplinks (mq : MqttConfig) (envelopes : EnvelopeCodec) (gateway : Gateway cfg)
    (request : GatewayRequest cfg) (after : Gateway cfg) : Prop :=
  ∃ new added, after.uplinks = new ++ gateway.uplinks ∧
    (∀ uplink ∈ new, gateway.calls mq envelopes request = some uplink.request) ∧
    after.queue <:+ gateway.queue ++ added ∧
    (added = new.reverse.map (Uplink.entry mq envelopes) ∨
      ∃ topic payload, request = .report topic payload ∧
        added = [⟨(topic.truncate (MQTT_TOPIC_SIZE - 1)).bytes, payload⟩])

theorem Gateway.step_queues {gateway after : Gateway cfg} {request : GatewayRequest cfg}
    (taken : gateway.step mq codec envelopes board request = some after) :
    gateway.QueuesUplinks mq envelopes request after := by
  obtain ⟨new, added, same, made, rest⟩ := Gateway.step_gains taken
  refine ⟨new, added, same, ?_, rest⟩
  intro uplink newer
  obtain ⟨call, calls, fine⟩ := made uplink newer
  rw [calls, fine.request]

/-! ## No echo -/

/-- The source and the id of the packet that a call brings in from MQTT: a downlink, or a frame that was
heard with the flag via_mqtt. -/
def Request.fromMqtt : Request cfg → Option (UInt32 × UInt32)
  | .inject mesh _ => some (mesh.from_, mesh.id)
  | .receive frame _ _ _ =>
    match readHeader frame with
    | some (hdr, _) => if flagsViaMqtt hdr.flags then some (hdr.src, hdr.id) else none
    | none => none
  | _ => none

/-- The packet in an envelope is known by its source and its id. -/
def ServiceEnvelope.Carries (envelope : ServiceEnvelope) (src id : UInt32) : Prop :=
  ∃ mesh, envelope.packet = some mesh ∧ mesh.from_ = src ∧ mesh.id = id

/-- The frame is this node's own acknowledgement of a foreign packet. -/
structure Uplink.Acknowledges (uplink : Uplink cfg) (src id : UInt32) : Prop where
  port : uplink.packet.portnum = PORT_ROUTING
  answers : uplink.packet.requestId = id
  own : uplink.packet.from_ = uplink.node.nodeId
  foreign : src ≠ uplink.node.nodeId

theorem Node.decodes_fromMqtt {node : Node cfg} {request : Request cfg} {packet : Packet} {src id : UInt32}
    (decoded : node.decodes codec request = some packet) (marked : request.fromMqtt = some (src, id)) :
    packet.from_ = src ∧ packet.id = id ∧ packet.viaMqtt = true := by
  cases request with
  | receive frame rssi snr around =>
    simp only [Request.fromMqtt] at marked
    cases parsed : readHeader frame with
    | none =>
      rw [parsed] at marked
      contradiction
    | some pair =>
      obtain ⟨hdr, enc⟩ := pair
      simp only [parsed] at marked
      split_ifs at marked with flagged
      cases marked
      simp only [decodes] at decoded
      split at decoded
      next packet decodes =>
        cases decoded
        obtain ⟨src, -, id, -, mark⟩ := tryDecodeWirePacket_header parsed decodes
        exact ⟨src, id, mark.trans flagged⟩
      next => contradiction
  | inject mesh around =>
    cases marked
    simp only [decodes] at decoded
    split at decoded
    next packet made =>
      cases decoded
      obtain ⟨src, id, -⟩ := meshPbToPacket_eq_ok made
      exact ⟨src, id, rfl⟩
    next => contradiction
  | _ => contradiction

theorem Node.Sending.header {node : Node cfg} {packet local_ : Packet} {wire : Octets}
    (sending : node.Sending codec packet local_ wire) :
    ∃ hash enc, readHeader wire = some (local_.header hash, enc) := by
  obtain ⟨nodedb, made⟩ := sending.made
  obtain ⟨-, -, key, -, -, same⟩ := buildWirePacket_eq_ok made
  rw [same]
  exact ⟨_, _, readHeader_octets _ _⟩

theorem mqttMeshFromWire_source {wire enc : Octets} {hdr : WireHeader} {mesh : ReportedMeshPacket}
    (parsed : readHeader wire = some (hdr, enc)) (carried : mqttMeshFromWire wire = .ok mesh) :
    mesh.from_ = hdr.src := by
  unfold mqttMeshFromWire at carried
  simp only [parsed] at carried
  split_ifs at carried
  cases carried
  rfl

theorem Uplink.QueuedBy.source_eq {uplink : Uplink cfg} {effect : Effect} {packet : Packet} {mesh : ReportedMeshPacket}
    (queued : uplink.QueuedBy mq effect) (sending : uplink.node.Sending codec packet uplink.packet uplink.wire)
    (named : uplink.envelope.packet = some mesh) : mesh.from_ = uplink.packet.from_ := by
  obtain ⟨-, -, mesh', carried, same⟩ := mqttUplinkEnvelope_eq_some queued.envelope
  rw [same] at named
  cases named
  split_ifs at carried with encrypted
  · obtain ⟨hash, enc, parsed⟩ := sending.header
    exact mqttMeshFromWire_source parsed carried
  · unfold packetToMeshPb at carried
    by_cases long : uplink.packet.payload.length > MAX_PAYLOAD_LEN
    · rw [if_pos long] at carried
      contradiction
    · rw [if_neg long] at carried
      cases carried
      rfl

theorem Node.Sending.ack_own {node : Node cfg} {req local_ : Packet} {id : UInt32} {payload wire : Octets}
    (sending : node.Sending codec (node.ackPacket req id payload) local_ wire) : local_.from_ = node.nodeId := by
  obtain ⟨drawn, -, filled⟩ := sending.filled
  rw [filled]
  show (if node.nodeId = 0 then node.nodeId else node.nodeId) = node.nodeId
  exact ite_self _

/-- During a call that brings something in from MQTT only an acknowledgement of it can be queued. -/
theorem Uplink.MadeBy.acknowledges {uplink : Uplink cfg} {node : Node cfg} {request : Request cfg} {src id : UInt32}
    (made : uplink.MadeBy mq codec node request) (marked : uplink.request.fromMqtt = some (src, id)) :
    uplink.Acknowledges src id ∧ ¬uplink.envelope.Carries src id := by
  obtain ⟨effect, queued⟩ := made.queued
  cases made.source with
  | sent asked sending =>
    rw [asked] at marked
    contradiction
  | phone asked payload sending =>
    rw [asked] at marked
    contradiction
  | encrypted asked payload own packet wire =>
    rw [asked] at marked
    contradiction
  | heard decoded frame foreign =>
    have native : uplink.packet.viaMqtt = false := (mqttUplinkEnvelope_eq_some queued.envelope).2.1
    rw [(Node.decodes_fromMqtt decoded marked).2.2] at native
    contradiction
  | ack decoded toUs foreign sending =>
    obtain ⟨source, number, -⟩ := Node.decodes_fromMqtt decoded marked
    obtain ⟨drawn, -, filled⟩ := sending.filled
    have own : uplink.packet.from_ = uplink.node.nodeId := sending.ack_own
    rw [source] at foreign
    refine ⟨⟨by rw [filled]; rfl, ?_, own, foreign⟩, ?_⟩
    · rw [filled, ← number]
      rfl
    · intro carries
      obtain ⟨mesh, named, same, -⟩ := carries
      exact foreign (same.symm.trans ((queued.source_eq sending named).trans own))

/-- What holds of the queue and of the uplinks after the given requests. -/
structure Gateway.Sound (mq : MqttConfig) (codec : Codec) (envelopes : EnvelopeCodec)
    (moves : List (GatewayRequest cfg)) (gateway : Gateway cfg) : Prop where
  queue : ∀ entry ∈ gateway.queue, (∃ topic, GatewayRequest.report topic entry.payload ∈ moves) ∨
    ∃ uplink ∈ gateway.uplinks, entry.payload = envelopes.encode uplink.envelope
  uplinks : ∀ uplink ∈ gateway.uplinks, ∃ node request, uplink.MadeBy mq codec node request

theorem Gateway.Sound.step {moves : List (GatewayRequest cfg)} {gateway after : Gateway cfg}
    {request : GatewayRequest cfg} (sound : gateway.Sound mq codec envelopes moves) (member : request ∈ moves)
    (taken : gateway.step mq codec envelopes board request = some after) : after.Sound mq codec envelopes moves := by
  obtain ⟨new, added, same, made, suffix, kind⟩ := Gateway.step_gains taken
  constructor
  · intro entry present
    rcases List.mem_append.mp (suffix.subset present) with old | fresh
    · rcases sound.queue entry old with reported | ⟨uplink, older, encodes⟩
      · exact Or.inl reported
      · exact Or.inr ⟨uplink, same ▸ List.mem_append_right new older, encodes⟩
    · rcases kind with entries | ⟨topic, payload, reported, entries⟩
      · rw [entries] at fresh
        obtain ⟨uplink, newer, here⟩ := List.mem_map.mp fresh
        rw [List.mem_reverse] at newer
        exact Or.inr ⟨uplink, same ▸ List.mem_append_left gateway.uplinks newer, here ▸ rfl⟩
      · rw [entries] at fresh
        rw [List.mem_singleton.mp fresh]
        exact Or.inl ⟨topic, reported ▸ member⟩
  · rw [same]
    apply List.forall_mem_append.mpr ⟨?_, sound.uplinks⟩
    intro uplink newer
    obtain ⟨call, -, fine⟩ := made uplink newer
    exact ⟨gateway.node, call, fine⟩

/-- No MQTT echo: in every run every entry of the publish queue is a map report or the envelope of an
uplink, each step puts entries of its own uplinks there and no others, and the processing of a downlink, or of a
frame heard with the flag via_mqtt, has queued nothing but the node's own acknowledgement of that packet, which
does not carry it. -/
theorem no_mqtt_echo (cfg : Kconfig) (mq : MqttConfig) (codec : Codec) (envelopes : EnvelopeCodec) (board : Board)
    (table : ChannelTable) (moves : List (GatewayRequest cfg)) (last : Gateway cfg)
    (whole : Transition.run (Gateway.step mq codec envelopes board) (Gateway.powerOn cfg table) moves = some last) :
    (∀ entry ∈ last.queue, (∃ topic, GatewayRequest.report topic entry.payload ∈ moves) ∨
      ∃ uplink ∈ last.uplinks, entry.payload = envelopes.encode uplink.envelope) ∧
    (∀ uplink ∈ last.uplinks, ∀ src id, uplink.request.fromMqtt = some (src, id) →
      uplink.Acknowledges src id ∧ ¬uplink.envelope.Carries src id) ∧
    ∀ request after, last.step mq codec envelopes board request = some after →
      last.QueuesUplinks mq envelopes request after := by
  have sound : last.Sound mq codec envelopes moves := by
    refine Transition.run_invariant (fun _ _ _ holds member => holds.step member) ?_
      (Transition.guarded_of_forall (fun _ _ member => member) _) whole
    exact ⟨fun _ member => False.elim (List.not_mem_nil member), fun _ member => False.elim (List.not_mem_nil member)⟩
  refine ⟨sound.queue, ?_, fun _ _ taken => Gateway.step_queues taken⟩
  intro uplink member src id marked
  obtain ⟨node, request, made⟩ := sound.uplinks uplink member
  exact made.acknowledges marked

/-! ## Consent -/

/-- The slot that the frame of an uplink was encrypted for: the one `meshtastic_build_wire_packet` chose, the
one named by a phone that encrypted the packet itself, or the one that has decoded a heard frame. -/
inductive Uplink.EncryptedFor (codec : Codec) (uplink : Uplink cfg) : UInt8 → Prop
  | built {nodedb : NodeDbGet}
      (made : buildWirePacket codec uplink.node.table nodedb uplink.packet = some (.ok uplink.wire)) :
      EncryptedFor codec uplink (UInt8.ofNat (channelsResolveSendIndex uplink.node.table nodedb uplink.packet.to_
        uplink.packet.channelIndex uplink.packet.channel).val)
  | phone {mesh : MeshPacket} {answer : Answer} {enc : Octets} (asked : uplink.request = .phone mesh answer)
      (payload : mesh.payload = .encrypted enc) : EncryptedFor codec uplink mesh.channel
  | heard {rssi snr : Int} {around : Surroundings} (asked : uplink.request = .receive uplink.wire rssi snr around)
      (decoded : uplink.node.tryDecode codec around.nodedb uplink.wire rssi snr = some (.ok (uplink.packet, true))) :
      EncryptedFor codec uplink uplink.packet.channelIndex

/-- The slot of the frame is enabled and permits uplink at the moment the frame is queued. -/
structure Uplink.Consents (codec : Codec) (uplink : Uplink cfg) : Prop where
  slot : ∃ slot, uplink.EncryptedFor codec slot
  permits : ∀ slot, uplink.EncryptedFor codec slot → channelsUplinkEnabled uplink.node.table slot = true

def Gateway.PhoneConsents (gateway : Gateway cfg) : GatewayRequest cfg → Prop
  | .call (.phone mesh _) => ∀ enc, mesh.payload = .encrypted enc →
      mesh.from_ = 0 ∨ mesh.from_ = gateway.node.nodeId → mesh.viaMqtt = false →
      channelsUplinkEnabled gateway.node.table 0 = true → channelsUplinkEnabled gateway.node.table mesh.channel = true
  | _ => True

theorem tryDecodeWirePacket_slot {t : ChannelTable} {mode : RebroadcastMode} {nodedb : NodeDbGet} {frame : Octets}
    {rssi snr : Int} {payloadLen : Nat} {packet : Packet}
    (decodes : tryDecodeWirePacket codec t mode nodedb frame rssi snr payloadLen = some (.ok (packet, true))) :
    ∃ ch : SlotIndex, packet.channelIndex = UInt8.ofNat ch.val := by
  cases parsed : readHeader frame with
  | none =>
    rw [tryDecodeWirePacket, parsed] at decodes
    cases decodes
  | some pair =>
    obtain ⟨hdr, enc⟩ := pair
    rcases tryDecodeWirePacket_cases parsed decodes with ⟨passed, -⟩ | ⟨data, ch, -, -, ⟨-, heard⟩ | ⟨-, failed⟩⟩
    · cases passed
    · cases heard
      exact ⟨ch, rfl⟩
    · cases failed

theorem Node.Sending.slot {node : Node cfg} {packet local_ : Packet} {wire : Octets}
    (sending : node.Sending codec packet local_ wire) : local_.channelIndex ≠ CHANNEL_INDEX_INVALID := by
  obtain ⟨id, -, filled⟩ := sending.filled
  rw [filled]
  show (if packet.channelIndex = CHANNEL_INDEX_INVALID then channelsPrimaryIndex node.table else packet.channelIndex) ≠
    CHANNEL_INDEX_INVALID
  split_ifs with invalid
  · exact slot_ne_invalid node.table.primaryIndex
  · exact invalid

theorem Request.eq_receive {request : Request cfg} {frame : Octets} (framed : request.frame = some frame) :
    ∃ rssi snr around, request = .receive frame rssi snr around := by
  cases request with
  | receive frame' rssi snr around =>
    cases framed
    exact ⟨rssi, snr, around, rfl⟩
  | _ => contradiction

theorem Node.decodes_receive {node : Node cfg} {frame : Octets} {rssi snr : Int} {around : Surroundings}
    {packet : Packet} (decoded : node.decodes codec (.receive frame rssi snr around) = some packet) :
    node.tryDecode codec around.nodedb frame rssi snr = some (.ok (packet, true)) := by
  simp only [decodes] at decoded
  split at decoded
  next packet' decodes =>
    cases decoded
    exact decodes
  next => contradiction

theorem Uplink.MadeBy.permitted {uplink : Uplink cfg} {node : Node cfg} {request : Request cfg}
    (made : uplink.MadeBy mq codec node request) :
    channelsUplinkEnabled uplink.node.table uplink.packet.channelIndex = true := by
  obtain ⟨effect, queued⟩ := made.queued
  have named : uplink.packet.channelIndex ≠ CHANNEL_INDEX_INVALID := by
    cases made.source with
    | sent asked sending => exact sending.slot
    | phone asked payload sending => exact sending.slot
    | ack decoded toUs foreign sending => exact sending.slot
    | encrypted asked payload own packet wire =>
      rw [packet]
      show (0 : UInt8) ≠ CHANNEL_INDEX_INVALID
      decide
    | heard decoded frame foreign =>
      obtain ⟨rssi, snr, around, asked⟩ := Request.eq_receive frame
      rw [asked] at decoded
      obtain ⟨ch, slot⟩ := tryDecodeWirePacket_slot (Node.decodes_receive decoded)
      rw [slot]
      exact slot_ne_invalid ch
  have permitted := (mqttUplinkEnvelope_eq_some queued.envelope).1
  rw [mqttUplinkIndex, if_pos named] at permitted
  exact permitted

/-- A slot that permits uplink is enabled, so `meshtastic_build_wire_packet` chooses it when it is asked to. -/
theorem channelsResolveSendIndex_permitted {t : ChannelTable} {index : UInt8}
    (permitted : channelsUplinkEnabled t index = true) (nodedb : NodeDbGet) (dest : UInt32) (wireHash : UInt8) :
    UInt8.ofNat (channelsResolveSendIndex t nodedb dest index wireHash).val = index := by
  unfold channelsUplinkEnabled at permitted
  split_ifs at permitted with inside
  have enabled : (t.channelSlots ⟨index.toNat, inside⟩).role ≠ .disabled := by
    intro disabled
    simp [disabled] at permitted
  have slot : enabledSlot t index = some ⟨index.toNat, inside⟩ := by
    simpa only [UInt8.ofNat_toNat] using enabledSlot_ofNat enabled
  rw [channelsResolveSendIndex, slot]
  exact UInt8.ofNat_toNat

theorem Uplink.MadeBy.consents {uplink : Uplink cfg} {gateway : Gateway cfg} {call : Request cfg}
    (made : uplink.MadeBy mq codec gateway.node call) (agreed : gateway.PhoneConsents (.call call)) :
    uplink.Consents codec := by
  have permitted := made.permitted
  constructor
  · cases made.source with
    | sent asked sending => exact ⟨_, .built sending.made.choose_spec⟩
    | phone asked payload sending => exact ⟨_, .built sending.made.choose_spec⟩
    | ack decoded toUs foreign sending => exact ⟨_, .built sending.made.choose_spec⟩
    | encrypted asked payload own packet wire => exact ⟨_, .phone asked payload⟩
    | heard decoded frame foreign =>
      obtain ⟨rssi, snr, around, asked⟩ := Request.eq_receive frame
      rw [asked] at decoded
      exact ⟨_, .heard asked (Node.decodes_receive decoded)⟩
  · intro slot encrypted
    cases encrypted with
    | built built =>
      rw [channelsResolveSendIndex_permitted permitted]
      exact permitted
    | heard asked decoded => exact permitted
    | @phone mesh answer enc asked payload =>
      cases made.source with
      | sent sent sending =>
        rw [asked] at sent
        contradiction
      | phone sent decoded sending =>
        rw [asked] at sent
        cases sent
        rw [payload] at decoded
        contradiction
      | ack decoded toUs foreign sending =>
        rw [asked] at decoded
        contradiction
      | heard decoded frame foreign =>
        rw [asked] at frame
        contradiction
      | @encrypted mesh' answer' enc' id hopLimit hopStart sent payload' own packet wire =>
        rw [asked] at sent
        cases sent
        rw [made.request] at asked
        subst asked
        obtain ⟨effect, queued⟩ := made.queued
        have native : uplink.packet.viaMqtt = false := (mqttUplinkEnvelope_eq_some queued.envelope).2.1
        rw [packet] at native permitted own
        rw [made.alike.table] at permitted ⊢
        apply agreed enc payload ?_ native permitted
        have source : (if mesh.from_ ≠ 0 then mesh.from_ else uplink.node.nodeId) = uplink.node.nodeId := own
        by_cases open_ : mesh.from_ = 0
        · exact Or.inl open_
        · rw [if_pos open_] at source
          exact Or.inr (source.trans made.alike.nodeId)

theorem Gateway.PhoneConsents.call {gateway : Gateway cfg} {request : GatewayRequest cfg} {call : Request cfg}
    (agreed : gateway.PhoneConsents request) (calls : gateway.calls mq envelopes request = some call) :
    gateway.PhoneConsents (.call call) := by
  cases request with
  | call request =>
    cases calls
    exact agreed
  | publish payload around =>
    obtain ⟨mesh, -, same⟩ := Option.map_eq_some_iff.mp calls
    rw [← same]
    trivial
  | report topic payload => contradiction
  | drain published => contradiction

theorem Gateway.step_consents {gateway after : Gateway cfg} {request : GatewayRequest cfg}
    (before : ∀ uplink ∈ gateway.uplinks, uplink.Consents codec) (agreed : gateway.PhoneConsents request)
    (taken : gateway.step mq codec envelopes board request = some after) :
    ∀ uplink ∈ after.uplinks, uplink.Consents codec := by
  obtain ⟨new, -, same, made, -⟩ := Gateway.step_gains taken
  rw [same]
  apply List.forall_mem_append.mpr ⟨?_, before⟩
  intro uplink newer
  obtain ⟨call, calls, fine⟩ := made uplink newer
  exact fine.consents (agreed.call calls)

/-- Uplink respects the channel's consent: in every run in which whatever the phone encrypts itself has the
consent of the slot it names, or slot 0 gives none, every frame was queued with the consent of the slot
that it was encrypted for, and each step puts entries of its own uplinks into the queue and no others. -/
theorem uplink_consents (cfg : Kconfig) (mq : MqttConfig) (codec : Codec) (envelopes : EnvelopeCodec) (board : Board)
    (table : ChannelTable) (moves : List (GatewayRequest cfg)) (last : Gateway cfg)
    (agreed : Transition.Guarded (Gateway.step mq codec envelopes board) Gateway.PhoneConsents (Gateway.powerOn cfg table)
      moves)
    (whole : Transition.run (Gateway.step mq codec envelopes board) (Gateway.powerOn cfg table) moves = some last) :
    (∀ uplink ∈ last.uplinks, uplink.Consents codec) ∧
    ∀ request after, last.step mq codec envelopes board request = some after →
      last.QueuesUplinks mq envelopes request after := by
  refine ⟨?_, fun _ _ taken => Gateway.step_queues taken⟩
  refine Transition.run_invariant (fun _ _ _ holds allowed => Gateway.step_consents holds allowed) ?_ agreed whole
  exact fun _ member => False.elim (List.not_mem_nil member)

end

/-! ## Values for examples -/

def downlinkEnvelope : ServiceEnvelope :=
  { packet := some
      { from_ := 0x33, to_ := 0x11, id := 7, channel := 0x08, hopLimit := 2, hopStart := 3, wantAck := true,
        payload := .encrypted [0x08, 0x01, 0x12, 0x02, 0x68, 0x69], transportMechanism := .lora }
    channelId := some CHANNEL_LONGFAST
    gatewayId := some (mqttNodeIdStr 0x33) }

def downlinkMoves : List (GatewayRequest smallKconfig) :=
  [.call (.init plainNodeConfig gatewayBoot), .publish (envelopeOctets downlinkEnvelope) plainAround]

theorem no_mqtt_echo_downlink :
    ∃ last uplink, Transition.run (Gateway.step plainMqtt (dataCodec fun _ _ _ => 0) (envelopeCodec [downlinkEnvelope])
        plainBoard) (Gateway.powerOn smallKconfig coldTable) downlinkMoves = some last ∧
      last.uplinks = [uplink] ∧ uplink.Acknowledges 0x33 7 ∧ ¬uplink.envelope.Carries 0x33 7 := by
  refine ⟨_, _, rfl, rfl, ?_⟩
  exact (no_mqtt_echo smallKconfig plainMqtt (dataCodec fun _ _ _ => 0) (envelopeCodec [downlinkEnvelope]) plainBoard
    coldTable downlinkMoves _ rfl).2.1 _ List.mem_cons_self 0x33 7 rfl

def phoneMoves (slot : UInt8) : List (GatewayRequest smallKconfig) :=
  [.call (.init plainNodeConfig gatewayBoot),
    .call (.phone { to_ := NODE_BROADCAST, id := 7, channel := slot, payload := .encrypted [0x5a, 0x3c, 0x71] } plainAnswer)]

theorem uplink_consents_slot0 :
    ∃ last uplink, Transition.run (Gateway.step plainMqtt (dataCodec fun _ _ _ => 0) (envelopeCodec []) plainBoard)
        (Gateway.powerOn smallKconfig coldTable) (phoneMoves 0) = some last ∧
      last.uplinks = [uplink] ∧ uplink.Consents (dataCodec fun _ _ _ => 0) := by
  refine ⟨_, _, rfl, rfl, ?_⟩
  refine (uplink_consents smallKconfig plainMqtt (dataCodec fun _ _ _ => 0) (envelopeCodec []) plainBoard coldTable
    (phoneMoves 0) _ ?_ rfl).1 _ List.mem_cons_self
  exact ⟨trivial, fun _ _ => ⟨fun _ _ _ _ permitted => permitted, fun _ _ => trivial⟩⟩

/-- A packet that the phone has encrypted for the channel "Own" is queued, because slot 0 permits it. -/
theorem uplink_without_consent :
    ∃ last uplink, Transition.run (Gateway.step plainMqtt (dataCodec fun _ _ _ => 0) (envelopeCodec []) plainBoard)
        (Gateway.powerOn smallKconfig coldTable) (phoneMoves 1) = some last ∧
      last.uplinks = [uplink] ∧ ¬uplink.Consents (dataCodec fun _ _ _ => 0) := by
  refine ⟨_, _, rfl, rfl, ?_⟩
  intro consents
  have permitted := consents.permits _ (.phone rfl rfl)
  contradiction

end Meshtastic
