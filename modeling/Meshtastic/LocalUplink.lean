import Meshtastic.MqttChannels
import Meshtastic.NewEffects
import Meshtastic.SendChannel

/-! Which of its own packets a node publishes: those whose sender waits for the radio without a limit,
and no others. -/

namespace Meshtastic
open Bytes

/-- A packet of this node and how it is sent: by an application, as an acknowledgement, by a module of its
own accord or as its reply, or by the thread that sends telemetry at intervals. -/
inductive LocalSend where
  | application (packet : Packet) (wait : Wait)
  | acknowledgement (req : Packet)
  | moduleProbe (probe : ModulePacket)
  | moduleReply (reply : ModulePacket) (req : Packet)
  | telemetry (payload : Octets)

section
variable {cfg : Kconfig}

def LocalSend.send (codec : Codec) (answer : Answer) (node : Node cfg) :
    LocalSend → Option (Option Errno × Node cfg)
  | .application packet wait => sendPacket codec answer node packet wait
  | .acknowledgement req => routingSendAck codec answer node req
  | .moduleProbe probe => sendPacket codec answer node probe.packet .noWait
  | .moduleReply reply req => sendPacket codec answer node (packetSetReplyTo reply.packet req) .noWait
  | .telemetry payload => sendData codec answer node NODE_BROADCAST PORT_TELEMETRY payload .noWait

def LocalSend.wait : LocalSend → Wait
  | .application _ wait => wait
  | .acknowledgement _ => .forever
  | .moduleProbe _ | .moduleReply _ _ | .telemetry _ => .noWait

def Node.Frames (node next : Node cfg) (local_ : Packet) (wire : Octets) : Prop :=
  ∃ key, Effect.built local_ key wire ∈ node.newEffects next

section
variable (mq : MqttConfig) (envelopes : EnvelopeCodec)

def frameEnvelope (node : Node cfg) (packet : Packet) (wire : Octets) : Except Errno ServiceEnvelope :=
  (if mq.encryptionEnabled then mqttMeshFromWire wire else packetToMeshPb packet).map fun mesh =>
    { packet := some mesh
      channelId := some (runtimeChannelName node.table)
      gatewayId := some (mqttNodeIdStr node.nodeId) }

/-- A packet of this node that does not come from MQTT, in a frame on a channel that permits uplink, whose
topic and envelope fit. -/
structure Node.Uplinkable (node : Node cfg) (nodedb : NodeDbGet) (local_ : Packet) (wire : Octets) : Prop where
  own : local_.from_ = node.nodeId
  native : local_.viaMqtt = false
  permitted : channelsUplinkEnabled node.table (UInt8.ofNat
    (channelsResolveSendIndex node.table nodedb local_.to_ local_.channelIndex local_.channel).val) = true
  topic : (mqttBuildPublishTopic mq node.table node.nodeId).length < MQTT_TOPIC_SIZE
  envelope : ∀ envelope, frameEnvelope mq node local_ wire = .ok envelope →
    (envelopes.encode envelope).length ≤ mq.txBufferSize

/-- The gateway once the hooks in what has been done since have run. -/
def Gateway.afterHooks (request : Request cfg) (gateway : Gateway cfg) (next : Node cfg) : Gateway cfg :=
  (gateway.node.newEffects next).reverse.foldl (mqttHook mq envelopes request) { gateway with node := next }

/-- One entry has been queued, and it carries this frame. -/
def Gateway.QueuesOnce (before after : Gateway cfg) (local_ : Packet) (wire : Octets) : Prop :=
  ∃ uplink : Uplink cfg, after.uplinks = uplink :: before.uplinks ∧ uplink.packet = local_ ∧ uplink.wire = wire ∧
    frameEnvelope mq before.node local_ wire = .ok uplink.envelope ∧
    after.queue = mqttMakeRoom mq before.queue ++
      [⟨mqttBuildPublishTopic mq before.node.table before.node.nodeId, envelopes.encode uplink.envelope⟩]

end

/-! ## What a send leaves in the log -/

variable {mq : MqttConfig} {codec : Codec} {envelopes : EnvelopeCodec}

def completionEffects (cfg : Kconfig) (wait : Wait) (local_ : Packet) (wire : Octets) : List Effect :=
  if wait = .forever then (if cfg.mqtt then [.mqttOnTx local_ wire] else []) ++ [.event .txDone none local_] else []

theorem sendPacketComplete_log (node : Node cfg) (local_ : Packet) (wire : Octets) (wait : Wait) :
    (sendPacketComplete node local_ wire wait).log =
      (completionEffects cfg wait local_ wire).map (Record.mk node.nodeId) ++ node.log := by
  unfold sendPacketComplete completionEffects Node.mqttOnTx
  split_ifs <;> rfl

theorem sendPacket_newEffects {node next : Node cfg} {packet : Packet} {wait : Wait} {answer : Answer}
    (sent : sendPacket codec answer node packet wait = some (none, next)) :
    ∃ local_ key wire, node.Sending codec packet local_ wire ∧
      buildWirePacket codec node.table answer.nodedb local_ = some (.ok wire) ∧
      next.log = (completionEffects cfg wait local_ wire ++ [Effect.handed wire, .built local_ key wire]).map
        (Record.mk node.nodeId) ++ node.log := by
  have drew : node.Emits (fun _ => False) (node.drawId packet.id).2 := node.emits_drawId packet.id
  rcases sendPacket_stages sent with ⟨⟨err, failed⟩, -⟩ | ⟨wire, after, ready, made, queued, ended⟩
  · cases failed
  rw [drew.fillPacket, drew.table] at made
  rw [drew.fillPacket, drew.table] at queued
  rw [drew.fillPacket, if_pos rfl] at ended
  rcases Node.outboundEnqueue_cases queued with ⟨-, err, failed⟩ | ⟨handed, -⟩
  · cases failed
  let filled := node.fillPacket packet (node.drawId packet.id).1
  refine ⟨_, wireKey node.table answer.nodedb filled, wire, ⟨ready, ⟨_, fun given => ?_, rfl⟩, _, made⟩, made, ?_⟩
  · rw [node.drawId_given given]
  · have same : after.nodeId = node.nodeId := by
      rw [handed]
      exact drew.nodeId
    have grown : after.log = [.handed wire, .built (node.fillPacket packet (node.drawId packet.id).1)
        (wireKey node.table answer.nodedb (node.fillPacket packet (node.drawId packet.id).1)) wire].map
          (Record.mk node.nodeId) ++ node.log := by
      rw [handed, ← node.drawId_log packet.id, ← drew.nodeId]
      rfl
    rw [ended, List.map_append, List.append_assoc, ← grown, ← same]
    exact sendPacketComplete_log after _ wire wait

theorem LocalSend.send_eq_sendPacket {send : LocalSend} {node next : Node cfg} {answer : Answer}
    (sent : send.send codec answer node = some (none, next)) :
    ∃ mid packet, node.Alike mid ∧ mid.log = node.log ∧
      sendPacket codec answer mid packet send.wait = some (none, next) := by
  cases send with
  | application packet wait => exact ⟨node, packet, (Node.Kept.refl node).toAlike, rfl, sent⟩
  | moduleProbe probe => exact ⟨node, probe.packet, (Node.Kept.refl node).toAlike, rfl, sent⟩
  | moduleReply reply req => exact ⟨node, _, (Node.Kept.refl node).toAlike, rfl, sent⟩
  | telemetry payload => exact ⟨node, _, (Node.Kept.refl node).toAlike, rfl, sent⟩
  | acknowledgement req =>
    have drew : node.Emits (fun _ => False) node.allocatePacketId.2 := by
      rw [← node.allocatePacketId_eq]
      exact node.emits_drawId 0
    have same : node.allocatePacketId.2.log = node.log := by
      rw [← node.allocatePacketId_eq]
      exact node.drawId_log 0
    simp only [LocalSend.send, routingSendAck] at sent
    split_ifs at sent
    · cases sent
    · cases sent
    · exact ⟨_, _, drew.toAlike, same, sent⟩

/-! ## What the hooks queue -/

theorem frameEnvelope_ok {node : Node cfg} {nodedb : NodeDbGet} {local_ : Packet} {wire : Octets}
    (made : buildWirePacket codec node.table nodedb local_ = some (.ok wire)) :
    ∃ envelope, frameEnvelope mq node local_ wire = .ok envelope := by
  obtain ⟨short, fits, key, -, -, same⟩ := buildWirePacket_eq_ok made
  have limits : PAYLOAD_MAX = 239 ∧ ENCRYPTED_SIZE = 256 := by decide
  unfold frameEnvelope
  split_ifs
  · have carried : ¬(cipher codec key (packetNonce local_.id local_.from_) (codec.encodeData local_.data)).length >
        ENCRYPTED_SIZE := by
      rw [cipher_length]
      omega
    unfold mqttMeshFromWire
    rw [same, readHeader_octets]
    simp only [if_neg carried]
    exact ⟨_, rfl⟩
  · unfold packetToMeshPb
    rw [if_neg (Nat.not_lt.mpr short)]
    exact ⟨_, rfl⟩

theorem mqttUplinkEnvelope_own {node : Node cfg} {nodedb : NodeDbGet} {local_ : Packet} {wire : Octets}
    (fits : node.Uplinkable mq envelopes nodedb local_ wire) (nonempty : wire.length ≠ 0)
    (named : local_.channelIndex ≠ CHANNEL_INDEX_INVALID) :
    mqttUplinkEnvelope mq node local_ wire =
      if channelsUplinkEnabled node.table local_.channelIndex = true then
        (frameEnvelope mq node local_ wire).toOption
      else none := by
  have index : mqttUplinkIndex node.table local_ = local_.channelIndex := if_pos named
  have served : mqttShouldSkipPortnum mq local_.portnum (local_.from_ = node.nodeId) = false :=
    if_pos (Or.inl (decide_eq_true fits.own))
  have short : ¬(mqttBuildPublishTopic mq node.table node.nodeId).length ≥ MQTT_TOPIC_SIZE :=
    Nat.not_le.mpr fits.topic
  unfold mqttUplinkEnvelope
  rw [if_neg nonempty, index, fits.native, served, if_neg short]
  cases channelsUplinkEnabled node.table local_.channelIndex with
  | false => rfl
  | true =>
    simp only [frameEnvelope]
    cases (if mq.encryptionEnabled then mqttMeshFromWire wire else packetToMeshPb local_) <;> rfl

theorem mqttQueueUplink_own {gateway : Gateway cfg} {nodedb : NodeDbGet} {local_ : Packet} {wire : Octets}
    {envelope : ServiceEnvelope} (request : Request cfg)
    (fits : gateway.node.Uplinkable mq envelopes nodedb local_ wire) (nonempty : wire.length ≠ 0)
    (named : local_.channelIndex ≠ CHANNEL_INDEX_INVALID)
    (carried : frameEnvelope mq gateway.node local_ wire = .ok envelope) :
    mqttQueueUplink mq envelopes request gateway local_ wire =
      if channelsUplinkEnabled gateway.node.table local_.channelIndex = true then
        { gateway with
          queue := mqttMakeRoom mq gateway.queue ++
            [⟨mqttBuildPublishTopic mq gateway.node.table gateway.node.nodeId, envelopes.encode envelope⟩]
          uplinks := ⟨local_, wire, envelope, gateway.node, request⟩ :: gateway.uplinks }
      else gateway := by
  unfold mqttQueueUplink
  rw [mqttUplinkEnvelope_own fits nonempty named, carried]
  by_cases permitted : channelsUplinkEnabled gateway.node.table local_.channelIndex = true
  · rw [if_pos permitted, if_pos permitted]
    exact if_neg (Nat.not_lt.mpr (fits.envelope envelope carried))
  · rw [if_neg permitted, if_neg permitted]

theorem Node.Alike.uplinkable {node next : Node cfg} {nodedb : NodeDbGet} {local_ : Packet} {wire : Octets}
    (alike : node.Alike next) (fits : node.Uplinkable mq envelopes nodedb local_ wire) :
    next.Uplinkable mq envelopes nodedb local_ wire := by
  obtain ⟨own, native, permitted, topic, envelope⟩ := fits
  constructor
  · rw [alike.nodeId]
    exact own
  · exact native
  · rw [alike.table]
    exact permitted
  · rw [alike.table, alike.nodeId]
    exact topic
  · unfold frameEnvelope
    rw [alike.table, alike.nodeId]
    exact envelope

theorem built_mem_completion {wait : Wait} {local_ made : Packet} {key key' wire frame : Octets}
    (member : Effect.built made key' frame ∈
      completionEffects cfg wait local_ wire ++ [Effect.handed wire, .built local_ key wire]) :
    made = local_ ∧ frame = wire := by
  unfold completionEffects at member
  split_ifs at member <;> simp only [List.mem_append, List.mem_cons, List.not_mem_nil, Effect.built.injEq, reduceCtorEq,
    or_false, false_or] at member <;> exact ⟨member.1, member.2.2⟩

theorem foldl_completion (mqtt : cfg.mqtt = true) (enabled : mq.uplinkEnabled = true) {gateway : Gateway cfg}
    (request : Request cfg) {wait : Wait} {local_ : Packet} (own : local_.from_ = gateway.node.nodeId)
    (key wire : Octets) :
    (completionEffects cfg wait local_ wire ++ [Effect.handed wire, .built local_ key wire]).reverse.foldl
        (mqttHook mq envelopes request) gateway =
      if wait = .forever then mqttQueueUplink mq envelopes request gateway local_ wire else gateway := by
  unfold completionEffects
  rw [if_pos mqtt]
  split_ifs
  · have ours : ¬(mq.uplinkEnabled = false ∨ local_.from_ ≠ gateway.node.nodeId) := by
      simp [enabled, own]
    exact if_neg ours
  · rfl

theorem LocalSend.afterHooks_eq (mqtt : cfg.mqtt = true) (enabled : mq.uplinkEnabled = true) {send : LocalSend}
    {gateway : Gateway cfg} {next : Node cfg} {answer : Answer} {local_ : Packet} {wire : Octets}
    (request : Request cfg) (sent : send.send codec answer gateway.node = some (none, next))
    (built : gateway.node.Frames next local_ wire)
    (fits : gateway.node.Uplinkable mq envelopes answer.nodedb local_ wire) :
    ∃ envelope, frameEnvelope mq gateway.node local_ wire = .ok envelope ∧
      gateway.afterHooks mq envelopes request next =
        if send.wait = .forever ∧ channelsUplinkEnabled gateway.node.table local_.channelIndex = true then
          { node := next
            queue := mqttMakeRoom mq gateway.queue ++
              [⟨mqttBuildPublishTopic mq gateway.node.table gateway.node.nodeId, envelopes.encode envelope⟩]
            uplinks := ⟨local_, wire, envelope, next, request⟩ :: gateway.uplinks }
        else { gateway with node := next } := by
  obtain ⟨mid, packet, alike, sameLog, sending⟩ := LocalSend.send_eq_sendPacket sent
  obtain ⟨made, key, frame, framed, buildable, grown⟩ := sendPacket_newEffects sending
  rw [sameLog] at grown
  have effects := Node.newEffects_map grown
  obtain ⟨key', member⟩ := built
  rw [effects] at member
  obtain ⟨samePacket, sameFrame⟩ := built_mem_completion member
  subst samePacket sameFrame
  have reached : gateway.node.Alike next := alike.trans (sendPacket_emits sending).toAlike
  have fitsNext := reached.uplinkable fits
  rw [alike.table] at buildable
  obtain ⟨envelope, carried⟩ : ∃ envelope, frameEnvelope mq gateway.node local_ wire = .ok envelope :=
    frameEnvelope_ok buildable
  refine ⟨envelope, carried, ?_⟩
  have carriedNext : frameEnvelope mq next local_ wire = .ok envelope := by
    unfold frameEnvelope at carried ⊢
    rw [reached.table, reached.nodeId]
    exact carried
  have nonempty : wire.length ≠ 0 := by
    have header : HDR_LEN = 16 := rfl
    have long := framed.length.1
    omega
  have queued : mqttQueueUplink mq envelopes request { gateway with node := next } local_ wire = _ :=
    mqttQueueUplink_own request fitsNext nonempty framed.slot carriedNext
  unfold Gateway.afterHooks
  rw [effects, foldl_completion mqtt enabled request fitsNext.own, queued, reached.table, reached.nodeId, ite_and]

theorem Gateway.call_eq_afterHooks {board : Board} (gateway : Gateway cfg) (request : Request cfg) :
    gateway.call mq codec envelopes board request =
      (gateway.node.cleared.step codec board request).map fun next =>
        { gateway with node := gateway.node.cleared }.afterHooks mq envelopes request next := by
  unfold Gateway.call
  congr 1
  funext next
  unfold Gateway.afterHooks
  rw [Node.newEffects_eq (List.append_nil next.log).symm, List.map_reverse]

theorem mqttHook_module {node : Node cfg} {effect : Effect} (fine : node.ModuleEffect codec effect)
    (request : Request cfg) (gateway : Gateway cfg) : mqttHook mq envelopes request gateway effect = gateway := by
  cases fine with
  | sent unsent port sending =>
    cases sending with
    | hook sending waits => cases waits
    | _ => rfl

theorem foldl_mqttHook_idle {request : Request cfg} {gateway : Gateway cfg} {effects : List Effect}
    (idle : ∀ effect ∈ effects, mqttHook mq envelopes request gateway effect = gateway) :
    effects.foldl (mqttHook mq envelopes request) gateway = gateway := by
  induction effects with
  | nil => rfl
  | cons effect rest ih =>
    rw [List.foldl_cons, idle effect List.mem_cons_self]
    exact ih fun other member => idle other (List.mem_cons_of_mem effect member)

/-- Whatever the modules send about a packet, none of it is published. -/
theorem dispatchModules_unpublished {modules : Modules} {gateway : Gateway cfg} {packet : Packet} {next : Node cfg}
    (request : Request cfg) (done : dispatchModules codec modules gateway.node packet = some next) :
    gateway.afterHooks mq envelopes request next = { gateway with node := next } := by
  have modular := (dispatchModules_emits done).newEffects
  apply foldl_mqttHook_idle
  intro effect member
  exact mqttHook_module (modular effect (List.mem_reverse.mp member)) request _

/-- A packet of this node is published, once, when its sender waits for the radio without a limit and the slot
the packet names permits it; otherwise nothing is queued. So acknowledgements are published like the sends of
applications that wait forever, and replies and probes of modules and telemetry are not. The hooks are those that
a call into the stack runs, and whatever the modules send about a packet leaves the queue as it is. -/
theorem local_send_uplinked_iff (cfg : Kconfig) (mq : MqttConfig) (codec : Codec) (envelopes : EnvelopeCodec)
    (gateway : Gateway cfg) (request : Request cfg) (answer : Answer) (send : LocalSend) (next : Node cfg)
    (local_ : Packet) (wire : Octets) (mqtt : cfg.mqtt = true) (enabled : mq.uplinkEnabled = true)
    (sent : send.send codec answer gateway.node = some (none, next)) (built : gateway.node.Frames next local_ wire)
    (fits : gateway.node.Uplinkable mq envelopes answer.nodedb local_ wire) :
    (gateway.QueuesOnce mq envelopes (gateway.afterHooks mq envelopes request next) local_ wire ↔
      send.wait = .forever ∧ channelsUplinkEnabled gateway.node.table local_.channelIndex = true) ∧
    (¬gateway.QueuesOnce mq envelopes (gateway.afterHooks mq envelopes request next) local_ wire →
      gateway.afterHooks mq envelopes request next = { gateway with node := next }) ∧
    (∀ board, gateway.call mq codec envelopes board request =
      (gateway.node.cleared.step codec board request).map fun after =>
        { gateway with node := gateway.node.cleared }.afterHooks mq envelopes request after) ∧
    ∀ modules packet after, dispatchModules codec modules gateway.node packet = some after →
      gateway.afterHooks mq envelopes request after = { gateway with node := after } := by
  obtain ⟨envelope, carried, after⟩ := LocalSend.afterHooks_eq mqtt enabled request sent built fits
  rw [← and_assoc]
  refine ⟨?_, fun _ => Gateway.call_eq_afterHooks gateway request,
    fun _ _ _ done => dispatchModules_unpublished request done⟩
  by_cases published : send.wait = .forever ∧ channelsUplinkEnabled gateway.node.table local_.channelIndex = true
  · rw [if_pos published] at after
    have once : gateway.QueuesOnce mq envelopes (gateway.afterHooks mq envelopes request next) local_ wire := by
      rw [after]
      exact ⟨_, rfl, rfl, rfl, carried, rfl⟩
    exact ⟨iff_of_true once published, fun none => absurd once none⟩
  · rw [if_neg published] at after
    refine ⟨iff_of_false ?_ published, fun _ => after⟩
    intro once
    obtain ⟨uplink, more, -⟩ := once
    rw [after] at more
    exact List.cons_ne_self uplink gateway.uplinks more.symm

end

/-! ## Values for examples -/

def ownGateway : Gateway smallKconfig :=
  { gatewayAt 0x11 gatewayTable with
    node := { (gatewayAt 0x11 gatewayTable).node with hopLimit := 3, nextPktId := 1 } }

def ownGreeting : Packet := dataPacket NODE_BROADCAST PORT_TEXT_MESSAGE [0x68, 0x69]

def ownGreetingFrame : Octets :=
  { dest := NODE_BROADCAST, src := 0x11, id := 1, flags := 0x63, channel := 0x08, nextHop := 0, relayNode := 0 :
    WireHeader }.octets ++ [0x08, 1, 0x12, 0x02, 0x68, 0x69]

theorem ownGreeting_uplinkable :
    ownGateway.node.Uplinkable plainMqtt (envelopeCodec []) plainAnswer.nodedb (ownGateway.node.fillPacket ownGreeting 1)
      ownGreetingFrame where
  own := rfl
  native := rfl
  permitted := by decide
  topic := by decide
  envelope := by
    intro envelope carried
    cases carried
    decide

theorem local_send_uplinked_iff_forever :
    ∃ next, (LocalSend.application ownGreeting .forever).send (dataCodec fun _ _ _ => 0) plainAnswer ownGateway.node =
        some (none, next) ∧
      ownGateway.QueuesOnce plainMqtt (envelopeCodec [])
        (ownGateway.afterHooks plainMqtt (envelopeCodec []) (.send ownGreeting .forever plainAnswer) next)
        (ownGateway.node.fillPacket ownGreeting 1) ownGreetingFrame := by
  refine ⟨_, rfl, ?_⟩
  apply (local_send_uplinked_iff smallKconfig plainMqtt (dataCodec fun _ _ _ => 0) (envelopeCodec []) ownGateway _
    plainAnswer (.application ownGreeting .forever) _ _ _ rfl rfl rfl ?_ ownGreeting_uplinkable).1.mpr
  · exact ⟨rfl, by decide⟩
  · exact ⟨defaultPsk, by decide +kernel⟩

def GreetingUnpublished (wait : Wait) : Prop :=
  ∃ next, (LocalSend.application ownGreeting wait).send (dataCodec fun _ _ _ => 0) plainAnswer ownGateway.node =
      some (none, next) ∧
    ownGateway.node.Frames next (ownGateway.node.fillPacket ownGreeting 1) ownGreetingFrame ∧
    ownGateway.node.Uplinkable plainMqtt (envelopeCodec []) plainAnswer.nodedb (ownGateway.node.fillPacket ownGreeting 1)
      ownGreetingFrame ∧
    ¬ownGateway.QueuesOnce plainMqtt (envelopeCodec [])
      (ownGateway.afterHooks plainMqtt (envelopeCodec []) (.send ownGreeting wait plainAnswer) next)
      (ownGateway.node.fillPacket ownGreeting 1) ownGreetingFrame

theorem local_send_unpublished : GreetingUnpublished .noWait ∧ GreetingUnpublished .limited := by
  constructor
  · refine ⟨_, rfl, ⟨defaultPsk, by decide +kernel⟩, ownGreeting_uplinkable, ?_⟩
    intro once
    obtain ⟨uplink, more, -⟩ := once
    cases more
  · refine ⟨_, rfl, ⟨defaultPsk, by decide +kernel⟩, ownGreeting_uplinkable, ?_⟩
    intro once
    obtain ⟨uplink, more, -⟩ := once
    cases more

end Meshtastic
