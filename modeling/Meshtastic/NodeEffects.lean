import Meshtastic.NodeRules
import Meshtastic.PacketRoundTrip

/-! What each routine of a node leaves alone and what it adds to the log. A step first remembers
the packet it accepts as new, if any; everything after that keeps who the node is, its settings and
its duplicate cache. -/

namespace Meshtastic
open Bytes

section
variable {cfg : Kconfig}

/-- What nothing but an initialisation or a configuration can change. -/
structure Node.Alike (node next : Node cfg) : Prop where
  nodeId : next.nodeId = node.nodeId
  initialized : next.initialized = node.initialized
  table : next.table = node.table
  hopLimit : next.hopLimit = node.hopLimit
  deviceRole : next.deviceRole = node.deviceRole
  rebroadcastMode : next.rebroadcastMode = node.rebroadcastMode

/-- No new packet has been remembered either. -/
structure Node.Kept (node next : Node cfg) : Prop extends node.Alike next where
  dupCache : next.dupCache = node.dupCache
  dupHead : next.dupHead = node.dupHead

/-- All that is kept, and only allowed effects are added to the log. -/
structure Node.Emits (allowed : Effect → Prop) (node next : Node cfg) : Prop extends node.Kept next where
  log : ∃ effects : List Effect, next.log = effects.map (Record.mk node.nodeId) ++ node.log ∧
    ∀ effect ∈ effects, allowed effect

theorem Node.Kept.refl (node : Node cfg) : node.Kept node := ⟨⟨rfl, rfl, rfl, rfl, rfl, rfl⟩, rfl, rfl⟩

theorem Node.Alike.trans {node mid next : Node cfg} (first : node.Alike mid) (second : mid.Alike next) :
    node.Alike next where
  nodeId := second.nodeId.trans first.nodeId
  initialized := second.initialized.trans first.initialized
  table := second.table.trans first.table
  hopLimit := second.hopLimit.trans first.hopLimit
  deviceRole := second.deviceRole.trans first.deviceRole
  rebroadcastMode := second.rebroadcastMode.trans first.rebroadcastMode

theorem Node.Kept.trans {node mid next : Node cfg} (first : node.Kept mid) (second : mid.Kept next) :
    node.Kept next where
  toAlike := first.toAlike.trans second.toAlike
  dupCache := second.dupCache.trans first.dupCache
  dupHead := second.dupHead.trans first.dupHead

theorem Node.Alike.fillPacket {node next : Node cfg} (alike : node.Alike next) (packet : Packet) (id : UInt32) :
    next.fillPacket packet id = node.fillPacket packet id := by
  simp only [Node.fillPacket, alike.nodeId, alike.hopLimit, alike.table]

theorem Node.Alike.tryDecode {node next : Node cfg} (alike : node.Alike next) (codec : Codec) (nodedb : NodeDbGet)
    (frame : Octets) (rssi snr : Int) :
    next.tryDecode codec nodedb frame rssi snr = node.tryDecode codec nodedb frame rssi snr := by
  simp only [Node.tryDecode, alike.table, alike.rebroadcastMode]

theorem Node.Alike.routingAck {node next : Node cfg} (alike : node.Alike next) (req : Packet) (id : UInt32)
    (payload : Octets) : next.routingAck req id payload = node.routingAck req id payload := by
  simp only [Node.routingAck, alike.nodeId, alike.hopLimit, alike.table]

theorem Node.Kept.dupCheck {node next : Node cfg} (kept : node.Kept next) (src id : UInt32) :
    next.dupCheck src id = node.dupCheck src id := by
  simp only [Node.dupCheck, kept.dupCache]

variable {allowed also : Effect → Prop}

theorem Node.Emits.refl (node : Node cfg) : node.Emits allowed node where
  toKept := Node.Kept.refl node
  log := ⟨[], rfl, by simp⟩

theorem Node.Emits.trans {node mid next : Node cfg} (first : node.Emits allowed mid)
    (second : mid.Emits allowed next) : node.Emits allowed next where
  toKept := first.toKept.trans second.toKept
  log := by
    obtain ⟨older, before, fine⟩ := first.log
    obtain ⟨newer, after, good⟩ := second.log
    refine ⟨newer ++ older, ?_, ?_⟩
    · rw [after, before, first.nodeId, List.map_append, List.append_assoc]
    · intro effect member
      rcases List.mem_append.mp member with new | old
      · exact good effect new
      · exact fine effect old

theorem Node.Emits.mono {node next : Node cfg} (emits : node.Emits allowed next)
    (weaker : ∀ effect, allowed effect → also effect) : node.Emits also next where
  toKept := emits.toKept
  log := by
    obtain ⟨effects, same, fine⟩ := emits.log
    exact ⟨effects, same, fun effect member => weaker effect (fine effect member)⟩

theorem Node.Emits.note {node next : Node cfg} (emits : node.Emits allowed next) {effect : Effect}
    (fine : allowed effect) : node.Emits allowed (next.note effect) := by
  refine emits.trans ⟨⟨⟨rfl, rfl, rfl, rfl, rfl, rfl⟩, rfl, rfl⟩, [effect], rfl, ?_⟩
  intro other member
  rw [List.mem_singleton.mp member]
  exact fine

theorem Node.emits_counters (node : Node cfg) (nextPktId : UInt32) (allocated : Nat) (entries : ReliableTable cfg) :
    node.Emits allowed { node with nextPktId := nextPktId, allocated := allocated, entries := entries } :=
  ⟨⟨⟨rfl, rfl, rfl, rfl, rfl, rfl⟩, rfl, rfl⟩, [], rfl, by simp⟩

theorem Node.emits_drawId (node : Node cfg) (given : UInt32) : node.Emits allowed (node.drawId given).2 := by
  obtain ⟨nextPktId, allocated, same⟩ := node.drawId_node given
  rw [same]
  exact node.emits_counters nextPktId allocated node.entries

theorem Node.emits_outboundEnqueue {node next : Node cfg} {wire : Octets} {wait : Wait} {radio : RadioAnswer}
    {ret : Option Errno} (sent : node.outboundEnqueue wire wait radio = (ret, next))
    (fine : wire.length ≤ PKT_MAX → allowed (.handed wire)) : node.Emits allowed next := by
  rcases outboundEnqueue_cases sent with ⟨same, -⟩ | ⟨handed, short⟩
  · rw [same]
    exact Node.Emits.refl node
  · rw [handed]
    exact (Node.Emits.refl node).note (fine short)

theorem Node.emits_mqttOnTx (node : Node cfg) {packet : Packet} {wire : Octets}
    (fine : allowed (.mqttOnTx packet wire)) : node.Emits allowed (node.mqttOnTx packet wire) := by
  unfold mqttOnTx
  split_ifs
  · exact (Node.Emits.refl node).note fine
  · exact Node.Emits.refl node

theorem Node.emits_mqttOnRx (node : Node cfg) {packet : Packet} {wire : Option Octets}
    (fine : allowed (.mqttOnRx packet wire)) : node.Emits allowed (node.mqttOnRx packet wire) := by
  unfold mqttOnRx
  split_ifs
  · exact (Node.Emits.refl node).note fine
  · exact Node.Emits.refl node

/-! ## Sending -/

variable (codec : Codec)

structure Node.Sending (node : Node cfg) (packet local_ : Packet) (wire : Octets) : Prop where
  ready : node.initialized = true
  filled : ∃ id, (packet.id ≠ 0 → id = packet.id) ∧ local_ = node.fillPacket packet id
  made : ∃ nodedb, buildWirePacket codec node.table nodedb local_ = some (.ok wire)

/-- What sending a packet adds to the log; `announced` says whether the caller waits for the radio,
in which case the end of the transmission is announced to MQTT. -/
inductive Node.SendEffect (node : Node cfg) (packet : Packet) (announced : Bool) : Effect → Prop
  | built {local_ : Packet} {key wire : Octets} (sending : node.Sending codec packet local_ wire) :
      SendEffect node packet announced (.built local_ key wire)
  | handed {local_ : Packet} {wire : Octets} (sending : node.Sending codec packet local_ wire) :
      SendEffect node packet announced (.handed wire)
  | txDone (local_ : Packet) : SendEffect node packet announced (.event .txDone none local_)
  | hook {local_ : Packet} {wire : Octets} (sending : node.Sending codec packet local_ wire)
      (waits : announced = true) : SendEffect node packet announced (.mqttOnTx local_ wire)

variable {codec}

theorem Node.Sending.of_alike {node mid : Node cfg} {packet local_ : Packet} {wire : Octets} (alike : node.Alike mid)
    (sending : mid.Sending codec packet local_ wire) : node.Sending codec packet local_ wire where
  ready := alike.initialized ▸ sending.ready
  filled := by
    obtain ⟨id, given, same⟩ := sending.filled
    exact ⟨id, given, same.trans (alike.fillPacket packet id)⟩
  made := alike.table ▸ sending.made

theorem Node.SendEffect.of_alike {node mid : Node cfg} {packet : Packet} {announced : Bool} {effect : Effect}
    (alike : node.Alike mid) (fine : mid.SendEffect codec packet announced effect) :
    node.SendEffect codec packet announced effect := by
  cases fine with
  | built sending => exact .built (sending.of_alike alike)
  | handed sending => exact .handed (sending.of_alike alike)
  | txDone local_ => exact .txDone local_
  | hook sending waits => exact .hook (sending.of_alike alike) waits

theorem Node.Sending.length {node : Node cfg} {packet local_ : Packet} {wire : Octets}
    (sending : node.Sending codec packet local_ wire) : HDR_LEN ≤ wire.length ∧ wire.length ≤ PKT_MAX := by
  obtain ⟨nodedb, made⟩ := sending.made
  obtain ⟨-, fits, key, -, -, same⟩ := buildWirePacket_eq_ok made
  have limits : PAYLOAD_MAX = 239 ∧ HDR_LEN = 16 ∧ PKT_MAX = 255 := by decide
  rw [same, List.length_append, WireHeader.octets_length, cipher_length]
  omega

theorem sendEnded_emits {after next : Node cfg} {local_ : Packet} {wire : Octets} {wait : Wait} {answer : Answer}
    {ret : Option Errno} (txDone : allowed (.event .txDone none local_))
    (hook : wait = .forever → allowed (.mqttOnTx local_ wire))
    (ended : next =
      if ret = none then (sendPacketComplete after local_ wire wait).track answer local_ wire else after) :
    after.Emits allowed next := by
  rw [ended]
  split_ifs
  swap
  · exact Node.Emits.refl after
  refine Node.Emits.trans ?_ (Node.emits_counters _ _ _ _)
  unfold sendPacketComplete
  split_ifs with forever
  · exact ((Node.Emits.refl after).note txDone).trans (Node.emits_mqttOnTx _ (hook forever))
  · exact Node.Emits.refl after

theorem sendBuilt_emits {node after next : Node cfg} {local_ : Packet} {wire : Octets} {wait : Wait} {answer : Answer}
    {ret : Option Errno} (handed : allowed (.handed wire)) (txDone : allowed (.event .txDone none local_))
    (hook : wait = .forever → allowed (.mqttOnTx local_ wire))
    (queued : node.outboundEnqueue wire wait answer.radio = (ret, after))
    (ended : next =
      if ret = none then (sendPacketComplete after local_ wire wait).track answer local_ wire else after) :
    node.Emits allowed next := by
  have handing : node.Emits allowed after := Node.emits_outboundEnqueue queued (fun _ => handed)
  exact handing.trans (sendEnded_emits txDone hook ended)

theorem sendPacket_emits {node next : Node cfg} {packet : Packet} {wait : Wait} {answer : Answer}
    {ret : Option Errno} (sent : sendPacket codec answer node packet wait = some (ret, next)) :
    node.Emits (node.SendEffect codec packet (decide (wait = .forever))) next := by
  have drew : node.Emits (node.SendEffect codec packet (decide (wait = .forever))) (node.drawId packet.id).2 :=
    node.emits_drawId packet.id
  rcases sendPacket_stages sent with ⟨-, same | drawn⟩ | ⟨wire, after, ready, made, queued, ended⟩
  · rw [same]
    exact Node.Emits.refl node
  · rw [drawn]
    exact drew
  · have sending : node.Sending codec packet
        ((node.drawId packet.id).2.fillPacket packet (node.drawId packet.id).1) wire := by
      refine ⟨ready, ⟨_, fun given => ?_, drew.fillPacket packet _⟩, _, drew.table ▸ made⟩
      rw [node.drawId_given given]
    apply (drew.note (.built sending)).trans
    exact sendBuilt_emits (.handed sending) (.txDone _) (fun forever => .hook sending (by simp [forever])) queued ended

inductive Node.EncryptedEffect (node : Node cfg) (mesh : MeshPacket) (enc : Octets) : Effect → Prop
  | handed (id : UInt32) (hopLimit hopStart : UInt8)
      (fits : ((node.meshPbHeader mesh id hopLimit hopStart).octets ++ enc).length ≤ PKT_MAX) :
      EncryptedEffect node mesh enc (.handed ((node.meshPbHeader mesh id hopLimit hopStart).octets ++ enc))
  | hook (id : UInt32) (hopLimit hopStart : UInt8) :
      EncryptedEffect node mesh enc
        (.mqttOnTx (meshPbTxPacket mesh (node.meshPbHeader mesh id hopLimit hopStart) hopLimit hopStart)
          ((node.meshPbHeader mesh id hopLimit hopStart).octets ++ enc))

theorem Node.Alike.meshPbHeader {node next : Node cfg} (alike : node.Alike next) (mesh : MeshPacket) (id : UInt32)
    (hopLimit hopStart : UInt8) :
    next.meshPbHeader mesh id hopLimit hopStart = node.meshPbHeader mesh id hopLimit hopStart := by
  simp only [Node.meshPbHeader, alike.nodeId, alike.table]

theorem sendEncryptedMeshPb_emits {node next : Node cfg} {mesh : MeshPacket} {enc : Octets} {answer : Answer}
    {ret : Option Errno} (sent : sendEncryptedMeshPb answer node mesh enc = (ret, next)) :
    node.Emits (node.EncryptedEffect mesh enc) next := by
  unfold sendEncryptedMeshPb at sent
  by_cases long : enc.length > PAYLOAD_MAX
  · rw [if_pos long] at sent
    cases sent
    exact Node.Emits.refl node
  rw [if_neg long] at sent
  have drew : node.Emits (node.EncryptedEffect mesh enc) (node.drawId mesh.id).2 := node.emits_drawId mesh.id
  simp only [drew.meshPbHeader] at sent
  split at sent
  next err after queued =>
    cases sent
    exact drew.trans (Node.emits_outboundEnqueue queued (.handed _ _ _))
  next after queued =>
    cases sent
    exact (drew.trans (Node.emits_outboundEnqueue queued (.handed _ _ _))).trans
      (Node.emits_mqttOnTx after (.hook _ _ _))

theorem relayInjectedEncryptedMeshPacket_emits {node next : Node cfg} {mesh : MeshPacket} {enc : Octets}
    {radio : RadioAnswer} {ret : Option Errno}
    (sent : relayInjectedEncryptedMeshPacket radio node mesh enc = (ret, next)) :
    node.Emits (node.EncryptedEffect mesh enc) next := by
  unfold relayInjectedEncryptedMeshPacket at sent
  by_cases long : enc.length > PAYLOAD_MAX
  · rw [if_pos long] at sent
    cases sent
    exact Node.Emits.refl node
  rw [if_neg long] at sent
  have drew : node.Emits (node.EncryptedEffect mesh enc) (node.drawId mesh.id).2 := node.emits_drawId mesh.id
  simp only [drew.meshPbHeader] at sent
  exact drew.trans (Node.emits_outboundEnqueue sent (.handed _ _ _))

inductive Node.MeshEffect (codec : Codec) (node : Node cfg) (mesh : MeshPacket) : Effect → Prop
  | decoded {data : Data} {effect : Effect} (payload : mesh.payload = .decoded data)
      (fine : node.SendEffect codec (meshPbPacket mesh data) true effect) : MeshEffect codec node mesh effect
  | encrypted {enc : Octets} {effect : Effect} (payload : mesh.payload = .encrypted enc)
      (fine : node.EncryptedEffect mesh enc effect) : MeshEffect codec node mesh effect

theorem sendMeshPb_emits {node next : Node cfg} {mesh : MeshPacket} {answer : Answer} {ret : Option Errno}
    (sent : sendMeshPb codec answer node mesh = some (ret, next)) : node.Emits (node.MeshEffect codec mesh) next := by
  unfold sendMeshPb at sent
  cases payload : mesh.payload with
  | decoded data =>
    rw [payload] at sent
    exact (sendPacket_emits sent).mono (fun _ fine => .decoded payload fine)
  | encrypted enc =>
    rw [payload] at sent
    exact (sendEncryptedMeshPb_emits (Option.some.inj sent)).mono (fun _ fine => .encrypted payload fine)
  | unset enc =>
    rw [payload] at sent
    cases sent
    exact Node.Emits.refl node

theorem Node.EncryptedEffect.of_alike {node mid : Node cfg} {mesh : MeshPacket} {enc : Octets} {effect : Effect}
    (alike : node.Alike mid) (fine : mid.EncryptedEffect mesh enc effect) : node.EncryptedEffect mesh enc effect := by
  cases fine with
  | handed id hopLimit hopStart fits =>
    rw [alike.meshPbHeader] at fits ⊢
    exact .handed id hopLimit hopStart fits
  | hook id hopLimit hopStart =>
    rw [alike.meshPbHeader]
    exact .hook id hopLimit hopStart

theorem Node.MeshEffect.of_alike {node mid : Node cfg} {mesh : MeshPacket} {effect : Effect}
    (alike : node.Alike mid) (fine : mid.MeshEffect codec mesh effect) : node.MeshEffect codec mesh effect := by
  cases fine with
  | decoded payload fine => exact .decoded payload (fine.of_alike alike)
  | encrypted payload fine => exact .encrypted payload (fine.of_alike alike)

/-! ## Acknowledgements and modules -/

def Node.ackPacket (node : Node cfg) (req : Packet) (id : UInt32) (payload : Octets) : Packet :=
  meshPbPacket (node.routingAck req id payload) { portnum := PORT_ROUTING, requestId := req.id, payload := payload }

/-- What modules add to the log. They never wait for the radio. -/
inductive Node.ModuleEffect (codec : Codec) (node : Node cfg) : Effect → Prop
  | sent {made : Packet} {effect : Effect} (unsent : made.from_ = 0 ∧ made.id = 0 ∧ made.wantAck = false)
      (port : made.portnum ≠ PORT_ROUTING) (fine : node.SendEffect codec made false effect) :
      ModuleEffect codec node effect

/-- What `meshtastic_routing_on_decoded` adds to the log: reports about pending packets, and one acknowledgement
if the packet asks this node for it. -/
inductive Node.AckEffect (codec : Codec) (node : Node cfg) (packet : Packet) : Effect → Prop
  | event (type : EventType) (err : Option Errno) (about : Packet) : AckEffect codec node packet (.event type err about)
  | ack {id : UInt32} {payload : Octets} {effect : Effect} (toUs : packet.to_ = node.nodeId)
      (foreign : packet.from_ ≠ node.nodeId) (asks : packet.wantAck = true)
      (fine : node.SendEffect codec (node.ackPacket packet id payload) true effect) :
      AckEffect codec node packet effect

/-- What the handling of a decoded packet adds to the log: reports about pending packets, one
acknowledgement if the packet asks this node for it, and the packets of modules. -/
inductive Node.HandleEffect (codec : Codec) (node : Node cfg) (packet : Packet) (wire : Option Octets) :
    Effect → Prop
  | event (type : EventType) (err : Option Errno) (about : Packet) :
      HandleEffect codec node packet wire (.event type err about)
  | heard : HandleEffect codec node packet wire (.mqttOnRx packet wire)
  | ack {id : UInt32} {payload : Octets} {effect : Effect} (toUs : packet.to_ = node.nodeId)
      (foreign : packet.from_ ≠ node.nodeId) (asks : packet.wantAck = true)
      (fine : node.SendEffect codec (node.ackPacket packet id payload) true effect) :
      HandleEffect codec node packet wire effect
  | module {effect : Effect} (fine : node.ModuleEffect codec effect) : HandleEffect codec node packet wire effect

theorem Node.ModuleEffect.of_alike {node mid : Node cfg} {effect : Effect} (alike : node.Alike mid)
    (fine : mid.ModuleEffect codec effect) : node.ModuleEffect codec effect := by
  cases fine with
  | sent unsent port fine => exact .sent unsent port (fine.of_alike alike)

theorem Node.AckEffect.of_alike {node mid : Node cfg} {packet : Packet} {effect : Effect} (alike : node.Alike mid)
    (fine : mid.AckEffect codec packet effect) : node.AckEffect codec packet effect := by
  cases fine with
  | event type err about => exact .event type err about
  | ack toUs foreign asks fine =>
    rw [alike.nodeId] at toUs foreign
    have same : mid.ackPacket packet = node.ackPacket packet := by
      funext id payload
      simp only [ackPacket, alike.routingAck]
    rw [same] at fine
    exact .ack toUs foreign asks (fine.of_alike alike)

theorem Node.AckEffect.handles {node : Node cfg} {packet : Packet} {effect : Effect} (wire : Option Octets)
    (fine : node.AckEffect codec packet effect) : node.HandleEffect codec packet wire effect := by
  cases fine with
  | event type err about => exact .event type err about
  | ack toUs foreign asks fine => exact .ack toUs foreign asks fine

theorem Node.HandleEffect.of_alike {node mid : Node cfg} {packet : Packet} {wire : Option Octets} {effect : Effect}
    (alike : node.Alike mid) (fine : mid.HandleEffect codec packet wire effect) :
    node.HandleEffect codec packet wire effect := by
  cases fine with
  | event type err about => exact .event type err about
  | heard => exact .heard
  | ack toUs foreign asks fine => exact (Node.AckEffect.of_alike alike (.ack toUs foreign asks fine)).handles wire
  | module fine => exact .module (fine.of_alike alike)

theorem Node.Emits.handle_trans {node mid next : Node cfg} {packet : Packet} {wire : Option Octets}
    (first : node.Emits (node.HandleEffect codec packet wire) mid)
    (second : mid.Emits (mid.HandleEffect codec packet wire) next) :
    node.Emits (node.HandleEffect codec packet wire) next :=
  first.trans (second.mono (fun _ fine => fine.of_alike first.toAlike))

theorem routingSendAck_emits {node next : Node cfg} {req : Packet} {answer : Answer} {ret : Option Errno}
    (foreign : req.from_ ≠ node.nodeId) (asks : req.wantAck = true)
    (sent : routingSendAck codec answer node req = some (ret, next)) :
    node.Emits (node.AckEffect codec req) next := by
  unfold routingSendAck at sent
  by_cases toUs : req.to_ = node.nodeId
  · rw [if_neg (not_not.mpr toUs)] at sent
    have drew : node.Emits (node.AckEffect codec req) node.allocatePacketId.2 := by
      rw [← node.allocatePacketId_eq]
      exact node.emits_drawId 0
    simp only [drew.routingAck] at sent
    split_ifs at sent
    · cases sent
      exact drew
    · refine drew.trans ((sendPacket_emits sent).mono ?_)
      intro effect fine
      exact .ack toUs foreign asks (fine.of_alike drew.toAlike)
  · rw [if_pos toUs] at sent
    cases sent
    exact Node.Emits.refl node

theorem Node.emits_settle (node : Node cfg) (packet : Packet) :
    node.Emits (node.AckEffect codec packet) (node.settle codec packet) := by
  unfold settle
  split
  · exact node.emits_counters _ _ _
  · exact (node.emits_counters _ _ _).note (.event _ _ _)

theorem routingOnDecoded_acks {node next : Node cfg} {packet : Packet} {answer : Answer}
    (done : routingOnDecoded codec answer node packet = some next) :
    node.Emits (node.AckEffect codec packet) next := by
  unfold routingOnDecoded at done
  by_cases ours : packetIsToUs node.nodeId packet = false ∨ packet.from_ = node.nodeId
  · rw [if_pos ours] at done
    cases done
    exact Node.Emits.refl node
  rw [if_neg ours] at done
  have settled : node.Emits (node.AckEffect codec packet) (node.settle codec packet) := node.emits_settle packet
  by_cases asked : packet.wantAck = true ∧ packet.to_ = (node.settle codec packet).nodeId
  · simp only [if_pos asked] at done
    obtain ⟨⟨ret, after⟩, acked, same⟩ := Option.map_eq_some_iff.mp done
    cases same
    have foreign : packet.from_ ≠ (node.settle codec packet).nodeId :=
      settled.nodeId ▸ fun same => ours (Or.inr same)
    exact settled.trans
      ((routingSendAck_emits foreign asked.1 acked).mono (fun _ fine => fine.of_alike settled.toAlike))
  · simp only [if_neg asked] at done
    cases done
    exact settled

theorem routingOnDecoded_emits {node next : Node cfg} {packet : Packet} {answer : Answer} (wire : Option Octets)
    (done : routingOnDecoded codec answer node packet = some next) :
    node.Emits (node.HandleEffect codec packet wire) next :=
  (routingOnDecoded_acks done).mono (fun _ fine => fine.handles wire)

theorem sendModule_emits {node next : Node cfg} {made : Packet} {answer : Answer} {ret : Option Errno}
    (unsent : made.from_ = 0 ∧ made.id = 0 ∧ made.wantAck = false) (port : made.portnum ≠ PORT_ROUTING)
    (sent : sendPacket codec answer node made .noWait = some (ret, next)) :
    node.Emits (node.ModuleEffect codec) next :=
  (sendPacket_emits sent).mono (fun _ fine => .sent unsent port fine)

theorem Node.Emits.module_trans {node mid next : Node cfg} (first : node.Emits (node.ModuleEffect codec) mid)
    (second : mid.Emits (mid.ModuleEffect codec) next) : node.Emits (node.ModuleEffect codec) next :=
  first.trans (second.mono (fun _ fine => fine.of_alike first.toAlike))

theorem sendProbes_emits {node next : Node cfg} {probes : List (ModulePacket × Answer)}
    (sent : sendProbes codec node probes = some next) : node.Emits (node.ModuleEffect codec) next := by
  induction probes generalizing node with
  | nil =>
    cases sent
    exact Node.Emits.refl next
  | cons probe rest ih =>
    obtain ⟨made, answer⟩ := probe
    unfold sendProbes at sent
    cases first : sendPacket codec answer node made.packet .noWait with
    | none =>
      rw [first] at sent
      contradiction
    | some pair =>
      rw [first] at sent
      have probing : node.Emits (node.ModuleEffect codec) pair.2 := sendModule_emits made.unsent made.port_ne first
      exact probing.module_trans (ih sent)

theorem dispatchModules_emits {node next : Node cfg} {packet : Packet} {modules : Modules}
    (done : dispatchModules codec modules node packet = some next) : node.Emits (node.ModuleEffect codec) next := by
  unfold dispatchModules at done
  cases probed : sendProbes codec node modules.probes with
  | none =>
    rw [probed] at done
    contradiction
  | some after =>
    rw [probed] at done
    have probing : node.Emits (node.ModuleEffect codec) after := sendProbes_emits probed
    simp only at done
    split_ifs at done
    · cases done
      exact probing
    · cases answered : modules.reply with
      | none =>
        rw [answered] at done
        cases done
        exact probing
      | some reply =>
        obtain ⟨made, answer⟩ := reply
        rw [answered] at done
        obtain ⟨⟨ret, last⟩, sent, same⟩ := Option.map_eq_some_iff.mp done
        cases same
        obtain ⟨from_, id, wantAck, port⟩ := packetSetReplyTo_keeps made.packet packet
        have unsent := made.unsent
        rw [← from_, ← id, ← wantAck] at unsent
        exact probing.module_trans (sendModule_emits unsent (port ▸ made.port_ne) sent)

theorem handleDecoded_emits {node next : Node cfg} {packet : Packet} {wire : Option Octets} {around : Surroundings}
    (done : handleDecoded codec around node packet wire = some next) :
    node.Emits (node.HandleEffect codec packet wire) next := by
  unfold handleDecoded at done
  have hearing : node.Emits (node.HandleEffect codec packet wire) (node.mqttOnRx packet wire) :=
    node.emits_mqttOnRx .heard
  cases routed : routingOnDecoded codec around.ack (node.mqttOnRx packet wire) packet with
  | none =>
    rw [routed] at done
    contradiction
  | some after =>
    rw [routed] at done
    exact (hearing.handle_trans (routingOnDecoded_emits wire routed)).handle_trans
      ((dispatchModules_emits done).mono (fun _ fine => .module fine))

/-! ## Receiving -/

/-- The packet a request makes the node accept as new, by source and id. -/
def Node.accepts (node : Node cfg) : Request cfg → Option (UInt32 × UInt32)
  | .receive frame _ _ _ =>
    match readHeader frame with
    | none => none
    | some (hdr, _) =>
      if cfg.mqttIgnoreMqtt ∧ flagsViaMqtt hdr.flags then none
      else if node.dupCheck hdr.src hdr.id then none else some (hdr.src, hdr.id)
  | .inject mesh _ =>
    if node.initialized = false then none
    else if node.dupCheck mesh.from_ mesh.id then none else some (mesh.from_, mesh.id)
  | _ => none

def Node.remember (node : Node cfg) (request : Request cfg) : Node cfg :=
  match node.accepts request with
  | some (src, id) => node.dupAdd src id
  | none => node

/-- What `meshtastic_routing_sniff_rebroadcast` hands to the radio. -/
def Node.rebroadcasts (node : Node cfg) (radio : RadioAnswer) (hdr : WireHeader) (frame : Octets) (packet : Packet) :
    Option Octets :=
  match (routingSniffRebroadcast radio { node with log := [] } hdr frame packet).log with
  | ⟨_, .handed wire⟩ :: _ => some wire
  | _ => none

def Node.relays (codec : Codec) (node : Node cfg) (request : Request cfg) : Option Octets :=
  match node.accepts request, request with
  | some _, .receive frame rssi snr around =>
    match readHeader frame, node.tryDecode codec around.nodedb frame rssi snr with
    | some (hdr, _), some (.ok (packet, _)) => node.rebroadcasts around.relay.radio hdr frame packet
    | _, _ => none
  | _, _ => none

/-- All the conditions on the way to the radio in `meshtastic_routing_sniff_rebroadcast`. -/
def Node.Relayable (node : Node cfg) (hdr : WireHeader) (frame : Octets) (packet : Packet) : Prop :=
  isRebroadcaster node.deviceRole node.rebroadcastMode = true ∧ node.rebroadcastMode ≠ .localOnly ∧
    hdr.src ≠ node.nodeId ∧ hdr.dest ≠ node.nodeId ∧ flagsHopLimit hdr.flags ≠ 0 ∧
    ¬(hdr.dest = NODE_BROADCAST ∧ packet.id = 0) ∧ frame.length ≠ 0 ∧ frame.length ≤ PKT_MAX

instance (node : Node cfg) (hdr : WireHeader) (frame : Octets) (packet : Packet) :
    Decidable (node.Relayable hdr frame packet) :=
  inferInstanceAs (Decidable (_ ∧ _))

theorem relayPacket_queued (result : Option Errno) (node : Node cfg) (frame : Octets) (hdr : WireHeader) :
    relayPacket (.queued result) node frame hdr (flagsHopLimit hdr.flags) =
      if flagsHopLimit hdr.flags ≠ 0 ∧ frame.length ≠ 0 ∧ frame.length ≤ PKT_MAX then
        node.note (.handed (relayFrame frame hdr.flags (flagsHopLimit hdr.flags)))
      else node := by
  unfold relayPacket Node.outboundEnqueue relayFrame
  rw [List.length_set]
  by_cases last : flagsHopLimit hdr.flags = 0
  · rw [if_pos (Or.inr last), if_neg (fun all => all.1 last)]
  by_cases long : frame.length > PKT_MAX
  · rw [if_pos (Or.inl long), if_neg (by omega)]
  by_cases empty : frame.length = 0
  · rw [if_neg (by simp [last, long]), if_pos (Or.inl empty), if_neg (by simp [empty])]
  · rw [if_neg (by simp [last, long]), if_neg (by simp [long, empty]), if_pos ⟨last, empty, by omega⟩]

theorem relayPacket_full (err : Errno) (node : Node cfg) (frame : Octets) (hdr : WireHeader) (hopLimit : UInt8) :
    relayPacket (.full err) node frame hdr hopLimit = node := by
  unfold relayPacket Node.outboundEnqueue
  split_ifs <;> rfl

theorem routingSniffRebroadcast_eq (radio : RadioAnswer) (node : Node cfg) (hdr : WireHeader) (frame : Octets)
    (packet : Packet) :
    routingSniffRebroadcast radio node hdr frame packet =
      match radio with
      | .full _ => node
      | .queued _ =>
        if node.Relayable hdr frame packet then
          node.note (.handed (relayFrame frame hdr.flags (flagsHopLimit hdr.flags)))
        else node := by
  unfold routingSniffRebroadcast
  cases radio with
  | full err =>
    rw [relayPacket_full]
    split_ifs <;> rfl
  | queued result =>
    rw [relayPacket_queued]
    by_cases may : node.Relayable hdr frame packet
    · obtain ⟨forwards, mode, src, dest, hops, named, nonempty, short⟩ := id may
      simp only [if_pos may]
      rw [if_neg (by simp [forwards]), if_neg (by simp [src, dest]), if_neg hops, if_neg named, if_neg mode,
        if_pos ⟨hops, nonempty, short⟩]
    · simp only [if_neg may]
      split_ifs with mute own last unnamed mode fine
      all_goals try rfl
      have foreign := not_or.mp own
      exact absurd ⟨by simpa using mute, mode, foreign.1, foreign.2, last, unnamed, fine.2⟩ may

theorem Node.rebroadcasts_eq (node : Node cfg) (radio : RadioAnswer) (hdr : WireHeader) (frame : Octets)
    (packet : Packet) :
    node.rebroadcasts radio hdr frame packet =
      match radio with
      | .full _ => none
      | .queued _ =>
        if node.Relayable hdr frame packet then some (relayFrame frame hdr.flags (flagsHopLimit hdr.flags))
        else none := by
  have same : Node.Relayable { node with log := [] } hdr frame packet = node.Relayable hdr frame packet := rfl
  unfold rebroadcasts
  rw [routingSniffRebroadcast_eq]
  cases radio with
  | full err => rfl
  | queued result =>
    simp only [same]
    split_ifs <;> rfl

theorem routingSniffRebroadcast_rebroadcasts (radio : RadioAnswer) (node : Node cfg) (hdr : WireHeader)
    (frame : Octets) (packet : Packet) :
    routingSniffRebroadcast radio node hdr frame packet =
      match node.rebroadcasts radio hdr frame packet with
      | some wire => node.note (.handed wire)
      | none => node := by
  rw [routingSniffRebroadcast_eq, node.rebroadcasts_eq]
  cases radio with
  | full err => rfl
  | queued result =>
    simp only
    split_ifs <;> rfl

theorem Node.Alike.rebroadcasts {node next : Node cfg} (alike : node.Alike next) (radio : RadioAnswer)
    (hdr : WireHeader) (frame : Octets) (packet : Packet) :
    next.rebroadcasts radio hdr frame packet = node.rebroadcasts radio hdr frame packet := by
  have same : next.Relayable hdr frame packet = node.Relayable hdr frame packet := by
    simp only [Relayable, alike.nodeId, alike.deviceRole, alike.rebroadcastMode]
  rw [next.rebroadcasts_eq, node.rebroadcasts_eq]
  simp only [same]

/-- The packet a request makes the node handle as decoded. -/
def Node.decodes (codec : Codec) (node : Node cfg) : Request cfg → Option Packet
  | .receive frame rssi snr around =>
    match node.tryDecode codec around.nodedb frame rssi snr with
    | some (.ok (packet, true)) => some packet
    | _ => none
  | .inject mesh _ =>
    match meshPbToPacket codec node.table { mesh with viaMqtt := true } MAX_PAYLOAD_LEN with
    | some (.ok packet) => some { packet with viaMqtt := true }
    | _ => none
  | _ => none

def Request.frame : Request cfg → Option Octets
  | .receive frame _ _ _ => some frame
  | _ => none

/-- What a request adds to the log, up to the frame it relays. -/
inductive Node.Effects (codec : Codec) (node : Node cfg) (request : Request cfg) : Effect → Prop
  | delivered {packet : Packet} (new : node.accepts request = some (packet.from_, packet.id)) :
      Effects codec node request (.delivered packet)
  | dropped {packet : Packet} (mode : RebroadcastMode)
      (new : node.accepts request = some (packet.from_, packet.id)) : Effects codec node request (.dropped packet mode)
  | undecoded {packet : Packet} (mode : RebroadcastMode) (known : Bool)
      (new : node.accepts request = some (packet.from_, packet.id)) :
      Effects codec node request (.undecoded packet mode known)
  | event (type : EventType) (err : Option Errno) (packet : Packet) :
      Effects codec node request (.event type err packet)
  | send {packet : Packet} {wait : Wait} {answer : Answer} {effect : Effect}
      (asked : request = .send packet wait answer)
      (fine : node.SendEffect codec packet (decide (wait = .forever)) effect) : Effects codec node request effect
  | phone {mesh : MeshPacket} {answer : Answer} {effect : Effect} (asked : request = .phone mesh answer)
      (fine : node.MeshEffect codec mesh effect) : Effects codec node request effect
  | inject {mesh : MeshPacket} {around : Surroundings} {effect : Effect} (asked : request = .inject mesh around)
      (fine : node.MeshEffect codec { mesh with viaMqtt := true } effect)
      (new : node.accepts request = some (mesh.from_, mesh.id)) : Effects codec node request effect
  | handle {packet : Packet} {effect : Effect} (heard : node.decodes codec request = some packet)
      (fine : node.HandleEffect codec packet request.frame effect) : Effects codec node request effect
  | retry {now : Int} {rand : ReliableSlot cfg → UInt32} {radio : ReliableSlot cfg → RadioAnswer}
      {i : ReliableSlot cfg} (asked : request = .work now rand radio) (waits : (node.entries i).id ≠ 0)
      (fits : (node.entries i).wire.length ≤ PKT_MAX) : Effects codec node request (.handed (node.entries i).wire)

theorem filterAndDeliver_emits_of {allowed : Effect → Prop} (node : Node cfg) (packet : Packet)
    (delivered : allowed (.delivered packet)) (dropped : allowed (.dropped packet node.rebroadcastMode))
    (event : allowed (.event .packetReceived none packet)) : node.Emits allowed (filterAndDeliver node packet) := by
  unfold filterAndDeliver deliverPacket
  split_ifs
  · exact (Node.Emits.refl node).note dropped
  · exact ((Node.Emits.refl node).note delivered).note event
  · exact Node.Emits.refl node

theorem filterAndDeliver_emits {request : Request cfg} {start : Node cfg} (node : Node cfg) {packet : Packet}
    (new : start.accepts request = some (packet.from_, packet.id)) :
    node.Emits (start.Effects codec request) (filterAndDeliver node packet) :=
  filterAndDeliver_emits_of node packet (.delivered new) (.dropped _ new) (.event _ _ packet)

theorem Node.alike_dupAdd (node : Node cfg) (src id : UInt32) : node.Alike (node.dupAdd src id) :=
  ⟨rfl, rfl, rfl, rfl, rfl, rfl⟩

theorem Node.alike_remember (node : Node cfg) (request : Request cfg) : node.Alike (node.remember request) := by
  unfold remember
  split
  · exact node.alike_dupAdd _ _
  · exact (Node.Kept.refl node).toAlike

theorem handleDecoded_effects {request : Request cfg} {start node next : Node cfg} {packet : Packet}
    {around : Surroundings} (alike : start.Alike node) (heard : start.decodes codec request = some packet)
    (done : handleDecoded codec around node packet request.frame = some next) :
    node.Emits (start.Effects codec request) next :=
  (handleDecoded_emits done).mono (fun _ fine => .handle heard (fine.of_alike alike))

/-- A new frame that the node heeds is remembered; which frame it relays is then up to the routing layer. -/
theorem Node.accepts_heeded {node : Node cfg} {frame enc : Octets} {rssi snr : Int} {around : Surroundings}
    {hdr : WireHeader} (parsed : readHeader frame = some (hdr, enc))
    (heeded : ¬(cfg.mqttIgnoreMqtt = true ∧ flagsViaMqtt hdr.flags = true))
    (fresh : ¬node.dupCheck hdr.src hdr.id = true) :
    node.accepts (.receive frame rssi snr around) = some (hdr.src, hdr.id) := by
  simp only [accepts, parsed, if_neg heeded, if_neg fresh]

/-- After a request: the node remembers the packet it accepts, does what the request allows and at last
relays a frame, if it does. -/
def Node.Finishes (codec : Codec) (node : Node cfg) (request : Request cfg) (next : Node cfg) : Prop :=
  ∃ before, (node.remember request).Emits (node.Effects codec request) before ∧
    next = match node.relays codec request with
      | some wire => before.note (.handed wire)
      | none => before

theorem Node.Finishes.of_refused {node next : Node cfg} {request : Request cfg} (refused : node.accepts request = none)
    (emits : node.Emits (node.Effects codec request) next) : node.Finishes codec request next := by
  unfold Finishes
  simp only [Node.remember, Node.relays, refused]
  exact ⟨next, emits, rfl⟩

/-- The rebroadcast at the end of a reception, after effects that keep what it depends on. -/
theorem Node.Finishes.of_accepted {node after : Node cfg} {frame enc : Octets} {rssi snr : Int} {around : Surroundings}
    {hdr : WireHeader} {packet : Packet} {decoded : Bool} (parsed : readHeader frame = some (hdr, enc))
    (accepted : node.accepts (.receive frame rssi snr around) = some (hdr.src, hdr.id))
    (decodes : node.tryDecode codec around.nodedb frame rssi snr = some (.ok (packet, decoded)))
    (handling : (node.dupAdd hdr.src hdr.id).Emits (node.Effects codec (.receive frame rssi snr around)) after) :
    node.Finishes codec (.receive frame rssi snr around)
      (routingSniffRebroadcast around.relay.radio after hdr frame packet) := by
  unfold Finishes
  have alike := (node.alike_dupAdd hdr.src hdr.id).trans handling.toAlike
  simp only [Node.remember, Node.relays, accepted, parsed, decodes]
  refine ⟨after, handling, ?_⟩
  rw [routingSniffRebroadcast_rebroadcasts, alike.rebroadcasts]

/-- What a frame does besides being relayed. A frame that is new is remembered first. -/
theorem processLoraRx_emits {node next : Node cfg} {frame : Octets} {rssi snr : Int} {around : Surroundings}
    (done : processLoraRx codec around node frame rssi snr = some next) :
    node.Finishes codec (.receive frame rssi snr around) next := by
  cases processLoraRx_cases done with
  | short parsed => exact .of_refused (by simp only [Node.accepts, parsed]) (Node.Emits.refl node)
  | ignored parsed ignored =>
    exact .of_refused (by simp only [Node.accepts, parsed, if_pos ignored]) (Node.Emits.refl node)
  | duplicate parsed heeded seen =>
    exact .of_refused (by simp only [Node.accepts, parsed, if_neg heeded, if_pos seen]) (Node.Emits.refl node)
  | reacked parsed heeded seen decodes acked =>
    apply Node.Finishes.of_refused (by simp only [Node.accepts, parsed, if_neg heeded, if_pos seen])
    apply (routingOnDecoded_emits (some frame) acked).mono
    intro effect fine
    exact .handle (by simp only [Node.decodes, decodes]) fine
  | garbled parsed heeded fresh fails =>
    unfold Node.Finishes
    simp only [Node.remember, Node.relays, Node.accepts_heeded parsed heeded fresh, parsed, fails]
    exact ⟨_, Node.Emits.refl _, rfl⟩
  | undecoded parsed heeded fresh decodes =>
    apply Node.Finishes.of_accepted parsed (Node.accepts_heeded parsed heeded fresh) decodes
    obtain ⟨src, -, id, -⟩ := tryDecodeWirePacket_header parsed decodes
    apply (Node.Emits.refl _).note
    refine .undecoded _ _ ?_
    rw [src, id]
    exact Node.accepts_heeded parsed heeded fresh
  | @decoded hdr enc packet after parsed heeded fresh decodes handled =>
    apply Node.Finishes.of_accepted parsed (Node.accepts_heeded parsed heeded fresh) decodes
    obtain ⟨src, -, id, -⟩ := tryDecodeWirePacket_header parsed decodes
    have new : node.accepts (.receive frame rssi snr around) = some (packet.from_, packet.id) := by
      rw [src, id]
      exact Node.accepts_heeded parsed heeded fresh
    have delivering : (node.dupAdd hdr.src hdr.id).Emits (node.Effects codec (.receive frame rssi snr around))
        (filterAndDeliver (node.dupAdd hdr.src hdr.id) packet) := filterAndDeliver_emits _ new
    have alike := (node.alike_dupAdd hdr.src hdr.id).trans delivering.toAlike
    exact delivering.trans (handleDecoded_effects alike (by simp only [Node.decodes, decodes]) handled)

theorem injectRelay_emits {node next : Node cfg} {work : MeshPacket} {around : Surroundings} {ret : Option Errno}
    (done : injectRelay codec around node work = some (ret, next)) : node.Emits (node.MeshEffect codec work) next := by
  unfold injectRelay at done
  by_cases toUs : work.to_ = node.nodeId
  · rw [if_pos toUs] at done
    cases done
    exact Node.Emits.refl node
  rw [if_neg toUs] at done
  by_cases last : work.hopLimit = 0
  · rw [if_pos last] at done
    split at done
    next enc payload =>
      exact (relayInjectedEncryptedMeshPacket_emits (Option.some.inj done)).mono
        (fun _ fine => .encrypted payload fine)
    next =>
      cases done
      exact Node.Emits.refl node
  · rw [if_neg last] at done
    exact sendMeshPb_emits done

theorem meshPbTryDecode_eq_ok {t : ChannelTable} {mesh work : MeshPacket}
    (opened : meshPbTryDecode codec t mesh = some (.ok work)) :
    ∃ data channel, work = { mesh with payload := .decoded data, channel := channel } := by
  unfold meshPbTryDecode at opened
  simp only at opened
  repeat' split at opened
  -- the message was decoded already, a slot decrypts it, or the call fails
  all_goals cases opened
  next data payload => exact ⟨data, mesh.channel, by rw [← payload]⟩
  all_goals exact ⟨_, _, rfl⟩

theorem meshPbToPacket_opened {t : ChannelTable} {mesh work : MeshPacket} {payloadLen : Nat}
    (opened : meshPbTryDecode codec t mesh = some (.ok work)) :
    meshPbToPacket codec t mesh payloadLen = meshPbToPacket codec t work payloadLen := by
  cases payload : mesh.payload with
  | decoded data =>
    simp only [meshPbTryDecode, payload] at opened
    cases opened
    rfl
  | _ =>
    obtain ⟨data, channel, same⟩ := meshPbTryDecode_eq_ok opened
    simp only [meshPbToPacket, payload, opened, same]

theorem decodedPbToPacket_eq_ok {t : ChannelTable} {mesh : MeshPacket} {data : Data} {payloadLen : Nat}
    {packet : Packet} (made : decodedPbToPacket t mesh data payloadLen = .ok packet) :
    packet.from_ = mesh.from_ ∧ packet.id = mesh.id ∧ packet.wantAck = mesh.wantAck := by
  unfold decodedPbToPacket at made
  by_cases long : data.payload.length ≠ 0 ∧ data.payload.length > payloadLen
  · rw [if_pos long] at made
    contradiction
  · rw [if_neg long] at made
    cases made
    exact ⟨rfl, rfl, rfl⟩

theorem meshPbToPacket_eq_ok {t : ChannelTable} {mesh : MeshPacket} {payloadLen : Nat} {packet : Packet}
    (made : meshPbToPacket codec t mesh payloadLen = some (.ok packet)) :
    packet.from_ = mesh.from_ ∧ packet.id = mesh.id ∧ packet.wantAck = mesh.wantAck := by
  unfold meshPbToPacket at made
  split at made
  next => exact decodedPbToPacket_eq_ok (Option.some.inj made)
  next =>
    split at made
    next => contradiction
    next => cases made
    next work opened =>
      obtain ⟨data, channel, same⟩ := meshPbTryDecode_eq_ok opened
      subst same
      have copied := decodedPbToPacket_eq_ok (Option.some.inj made)
      exact copied

theorem injectDeliver_handles {start node next : Node cfg} {mesh work : MeshPacket} {around outside : Surroundings}
    {ret : Option Errno} (alike : start.Alike node)
    (opened : meshPbToPacket codec node.table { mesh with viaMqtt := true } MAX_PAYLOAD_LEN =
      meshPbToPacket codec node.table work MAX_PAYLOAD_LEN)
    (done : injectDeliver codec around node work = some (ret, next)) :
    next = node ∨ ∃ packet, start.decodes codec (.inject mesh outside) = some packet ∧
      handleInboundMessage codec around node packet = some next := by
  unfold injectDeliver at done
  split at done
  next => contradiction
  next =>
    cases done
    exact Or.inl rfl
  next packet made =>
    obtain ⟨after, handled, same⟩ := Option.map_eq_some_iff.mp done
    cases same
    refine Or.inr ⟨{ packet with viaMqtt := true }, ?_, handled⟩
    rw [alike.table] at opened made
    simp only [Node.decodes, opened, made]

theorem injectDownlinkMeshPacket_handles {node next : Node cfg} {mesh : MeshPacket} {around : Surroundings}
    {ret : Option Errno} (on : node.initialized ≠ false) (fresh : node.dupCheck mesh.from_ mesh.id ≠ true)
    (done : injectDownlinkMeshPacket codec around node mesh = some (ret, next)) :
    ∃ err after, injectRelay codec around (node.dupAdd mesh.from_ mesh.id) { mesh with viaMqtt := true } =
        some (err, after) ∧
      (next = after ∨ ∃ packet, node.decodes codec (.inject mesh around) = some packet ∧
        handleInboundMessage codec around after packet = some next) := by
  unfold injectDownlinkMeshPacket at done
  rw [if_neg on] at done
  simp only [if_neg fresh] at done
  cases relayed : injectRelay codec around (node.dupAdd mesh.from_ mesh.id) { mesh with viaMqtt := true } with
  | none =>
    rw [relayed] at done
    contradiction
  | some result =>
    obtain ⟨err, after⟩ := result
    refine ⟨err, after, rfl, ?_⟩
    have alike : node.Alike after :=
      (node.alike_dupAdd mesh.from_ mesh.id).trans (injectRelay_emits relayed).toAlike
    rw [relayed] at done
    cases err with
    | some err =>
      cases done
      exact Or.inl rfl
    | none =>
      simp only at done
      split_ifs at done
      · cases done
        exact Or.inl rfl
      · split at done
        next => exact injectDeliver_handles alike rfl done
        next =>
          split at done
          next => contradiction
          next =>
            cases done
            exact Or.inl rfl
          next work opened => exact injectDeliver_handles alike (meshPbToPacket_opened opened) done

theorem Node.accepts_inject {node : Node cfg} {mesh : MeshPacket} (around : Surroundings)
    (on : node.initialized ≠ false) (fresh : node.dupCheck mesh.from_ mesh.id ≠ true) :
    node.accepts (.inject mesh around) = some (mesh.from_, mesh.id) := by
  simp only [accepts, if_neg on, if_neg fresh]

theorem Node.decodes_accepts {node : Node cfg} {mesh : MeshPacket} {around : Surroundings} {packet : Packet}
    (on : node.initialized ≠ false) (fresh : node.dupCheck mesh.from_ mesh.id ≠ true)
    (decoded : node.decodes codec (.inject mesh around) = some packet) :
    node.accepts (.inject mesh around) = some (packet.from_, packet.id) := by
  simp only [decodes] at decoded
  split at decoded
  next made =>
    cases decoded
    obtain ⟨src, id, -⟩ := meshPbToPacket_eq_ok made
    rw [Node.accepts_inject around on fresh]
    simp only [src, id]
  next => contradiction

theorem injectDownlinkMeshPacket_stages {node next : Node cfg} {mesh : MeshPacket} {around : Surroundings}
    {ret : Option Errno} (on : node.initialized ≠ false) (fresh : node.dupCheck mesh.from_ mesh.id ≠ true)
    (done : injectDownlinkMeshPacket codec around node mesh = some (ret, next)) :
    ∃ err after, injectRelay codec around (node.dupAdd mesh.from_ mesh.id) { mesh with viaMqtt := true } =
        some (err, after) ∧
      after.Emits (node.Effects codec (.inject mesh around)) next := by
  obtain ⟨err, after, relayed, ends⟩ := injectDownlinkMeshPacket_handles on fresh done
  refine ⟨err, after, relayed, ?_⟩
  rcases ends with same | ⟨packet, heard, handled⟩
  · rw [same]
    exact Node.Emits.refl after
  · have alike : node.Alike after :=
      (node.alike_dupAdd mesh.from_ mesh.id).trans (injectRelay_emits relayed).toAlike
    have delivering : after.Emits (node.Effects codec (.inject mesh around)) (filterAndDeliver after packet) :=
      filterAndDeliver_emits after (Node.decodes_accepts on fresh heard)
    exact delivering.trans (handleDecoded_effects (alike.trans delivering.toAlike) heard handled)

theorem injectDownlinkMeshPacket_refused {node next : Node cfg} {mesh : MeshPacket} {around : Surroundings}
    {ret : Option Errno} (refused : node.initialized = false ∨ node.dupCheck mesh.from_ mesh.id = true)
    (done : injectDownlinkMeshPacket codec around node mesh = some (ret, next)) : next = node := by
  unfold injectDownlinkMeshPacket at done
  by_cases off : node.initialized = false
  · rw [if_pos off] at done
    cases done
    rfl
  · rw [if_neg off] at done
    simp only [if_pos (refused.resolve_left off)] at done
    cases done
    rfl

theorem injectDownlinkMeshPacket_emits {node next : Node cfg} {mesh : MeshPacket} {around : Surroundings}
    {ret : Option Errno} (done : injectDownlinkMeshPacket codec around node mesh = some (ret, next)) :
    (node.remember (.inject mesh around)).Emits (node.Effects codec (.inject mesh around)) next := by
  unfold Node.remember Node.accepts
  by_cases off : node.initialized = false
  · rw [injectDownlinkMeshPacket_refused (.inl off) done]
    simp only [off, if_true]
    exact Node.Emits.refl node
  by_cases seen : node.dupCheck mesh.from_ mesh.id = true
  · rw [injectDownlinkMeshPacket_refused (.inr seen) done]
    simp only [if_neg off, if_pos seen]
    exact Node.Emits.refl node
  simp only [if_neg off, if_neg seen]
  obtain ⟨err, after, relayed, delivering⟩ := injectDownlinkMeshPacket_stages off seen done
  have relaying : (node.dupAdd mesh.from_ mesh.id).Emits (node.Effects codec (.inject mesh around)) after :=
    (injectRelay_emits relayed).mono fun _ fine =>
      .inject rfl (fine.of_alike (node.alike_dupAdd mesh.from_ mesh.id)) (Node.accepts_inject around off seen)
  exact relaying.trans delivering

/-! ## Steps -/

theorem Node.emits_retransmit {request : Request cfg} {start node : Node cfg} (radio : ReliableSlot cfg → RadioAnswer)
    (slots : List (ReliableSlot cfg)) (entries : node.entries = start.entries)
    (retry : ∀ i ∈ slots, (start.entries i).wire.length ≤ PKT_MAX →
      start.Effects codec request (.handed (start.entries i).wire)) :
    node.Emits (start.Effects codec request) (node.retransmit radio slots) := by
  induction slots generalizing node with
  | nil => exact Node.Emits.refl node
  | cons i rest ih =>
    cases queued : node.outboundEnqueue (node.entries i).wire .noWait (radio i) with
    | mk err after =>
      rw [retransmit, queued]
      have handing : node.Emits (start.Effects codec request) after := by
        rw [entries] at queued
        exact Node.emits_outboundEnqueue queued (retry i List.mem_cons_self)
      have same : after.entries = start.entries := by
        rcases outboundEnqueue_cases queued with ⟨kept, -⟩ | ⟨handed, -⟩
        · rw [kept, entries]
        · rw [handed]
          exact entries
      exact handing.trans (ih same (fun j member => retry j (List.mem_cons_of_mem i member)))

theorem Node.emits_report {request : Request cfg} {start node : Node cfg} (reports : List ReliableReport) :
    node.Emits (start.Effects codec request) (node.report reports) := by
  induction reports generalizing node with
  | nil => exact Node.Emits.refl node
  | cons report rest ih => exact ((Node.Emits.refl node).note (.event _ _ _)).trans ih

theorem Node.emits_work (node : Node cfg) (now : Int) (rand : ReliableSlot cfg → UInt32)
    (radio : ReliableSlot cfg → RadioAnswer) :
    node.Emits (node.Effects codec (.work now rand radio)) (node.work now rand radio) := by
  unfold work
  have sent : node.Emits (node.Effects codec (.work now rand radio))
      (node.retransmit radio (workSlots node.entries now .retransmit)) :=
    node.emits_retransmit radio _ rfl (fun i due fits => .retry rfl (workSlots_pending due) fits)
  exact (sent.trans (emits_counters _ _ _ _)).trans (emits_report _)

theorem Node.step_emits {board : Board} {request : Request cfg} {node next : Node cfg}
    (running : request.isAdmin = false) (taken : node.step codec board request = some next) :
    node.Finishes codec request next := by
  cases request with
  | init config boot => contradiction
  | configure settings => contradiction
  | send packet wait answer =>
    obtain ⟨⟨ret, after⟩, done, same⟩ := Option.map_eq_some_iff.mp taken
    exact ⟨next, same ▸ (sendPacket_emits done).mono (fun _ fine => .send rfl fine), rfl⟩
  | phone mesh answer =>
    obtain ⟨⟨ret, after⟩, done, same⟩ := Option.map_eq_some_iff.mp taken
    exact ⟨next, same ▸ (sendMeshPb_emits done).mono (fun _ fine => .phone rfl fine), rfl⟩
  | receive frame rssi snr around => exact processLoraRx_emits taken
  | inject mesh around =>
    obtain ⟨⟨ret, after⟩, done, same⟩ := Option.map_eq_some_iff.mp taken
    have relays : node.relays codec (.inject mesh around) = none := by
      unfold relays
      split <;> simp_all
    unfold Finishes
    rw [relays]
    exact ⟨next, same ▸ injectDownlinkMeshPacket_emits done, rfl⟩
  | work now rand radio =>
    cases taken
    exact ⟨_, node.emits_work now rand radio, rfl⟩

variable {board : Board} {request : Request cfg}

theorem Node.step_alike {node next : Node cfg} (running : request.isAdmin = false)
    (taken : node.step codec board request = some next) : node.Alike next := by
  obtain ⟨before, emits, same⟩ := Node.step_emits running taken
  have alike := (node.alike_remember request).trans emits.toAlike
  rw [same]
  cases node.relays codec request with
  | none => exact alike
  | some wire => exact alike.trans ⟨rfl, rfl, rfl, rfl, rfl, rfl⟩

/-- A step from an empty log: the relayed frame on top, below it effects of the request. -/
theorem Node.step_log {node next : Node cfg} (clean : node.log = []) (running : request.isAdmin = false)
    (taken : node.step codec board request = some next) :
    ∃ below : List Record, (∀ record ∈ below, node.Effects codec request record.effect) ∧
      next.log = match node.relays codec request with
        | some wire => ⟨node.nodeId, .handed wire⟩ :: below
        | none => below := by
  obtain ⟨before, emits, same⟩ := Node.step_emits running taken
  obtain ⟨effects, log, fine⟩ := emits.log
  have empty : (node.remember request).log = [] := by
    unfold remember dupAdd
    split <;> exact clean
  have id : (node.remember request).nodeId = node.nodeId := (node.alike_remember request).nodeId
  rw [empty, List.append_nil, id] at log
  refine ⟨effects.map (Record.mk node.nodeId), ?_, ?_⟩
  · intro record member
    obtain ⟨effect, inside, here⟩ := List.mem_map.mp member
    rw [← here]
    exact fine effect inside
  · rw [same]
    cases node.relays codec request with
    | none => exact log
    | some wire =>
      show ⟨before.nodeId, .handed wire⟩ :: before.log = _
      rw [log, emits.nodeId, id]

theorem Node.step_admin_log {node next : Node cfg} (admin : request.isAdmin = true)
    (taken : node.step codec board request = some next) : next.log = node.log := by
  cases request with
  | init config boot =>
    obtain ⟨⟨ret, after⟩, done, same⟩ := Option.map_eq_some_iff.mp taken
    cases same
    exact meshtasticInit_log done
  | configure settings =>
    cases taken
    rfl
  | _ => contradiction

/-! ## What is shown is what was accepted -/

def SentBy (nodeId : UInt32) (wire : Octets) : Prop :=
  ∃ hdr enc, readHeader wire = some (hdr, enc) ∧ hdr.src = nodeId

theorem Node.SendEffect.sentBy {node : Node cfg} {packet : Packet} {announced : Bool} {wire : Octets}
    (fine : node.SendEffect codec packet announced (.handed wire)) :
    SentBy (if packet.from_ = 0 then node.nodeId else packet.from_) wire := by
  cases fine with
  | @handed local_ _ sending =>
    obtain ⟨id, -, filled⟩ := sending.filled
    obtain ⟨nodedb, made⟩ := sending.made
    obtain ⟨-, -, key, -, -, same⟩ := buildWirePacket_eq_ok made
    rw [same]
    refine ⟨_, _, readHeader_octets _ _, ?_⟩
    rw [filled]
    rfl

theorem Node.SendEffect.own {node : Node cfg} {packet : Packet} {announced : Bool} {wire : Octets}
    (fine : node.SendEffect codec packet announced (.handed wire))
    (named : packet.from_ = 0 ∨ packet.from_ = node.nodeId) : SentBy node.nodeId wire := by
  have source := fine.sentBy
  split_ifs at source with unset
  · exact source
  · rwa [named.resolve_left unset] at source

theorem Node.HandleEffect.own {node : Node cfg} {packet : Packet} {frame : Option Octets} {wire : Octets}
    (fine : node.HandleEffect codec packet frame (.handed wire)) : SentBy node.nodeId wire := by
  cases fine with
  | ack toUs foreign asks fine => exact fine.own (Or.inr rfl)
  | module fine =>
    cases fine with
    | sent unsent port fine => exact fine.own (Or.inl unsent.1)

theorem Node.Effects.sentBy {node : Node cfg} {wire frame : Octets} {rssi snr : Int} {around : Surroundings}
    (fine : node.Effects codec (.receive frame rssi snr around) (.handed wire)) : SentBy node.nodeId wire := by
  cases fine with
  | send asked fine => contradiction
  | phone asked fine => contradiction
  | inject asked fine => contradiction
  | handle heard fine => exact fine.own
  | retry asked waits fits => contradiction

/-- The conditions under which a received frame is relayed. -/
theorem Node.relays_eq_some {node : Node cfg} {frame wire : Octets} {rssi snr : Int} {around : Surroundings}
    (relayed : node.relays codec (.receive frame rssi snr around) = some wire) :
    ∃ hdr enc, readHeader frame = some (hdr, enc) ∧ hdr.src ≠ node.nodeId ∧ hdr.dest ≠ node.nodeId ∧
      flagsHopLimit hdr.flags ≠ 0 ∧ ¬(hdr.dest = NODE_BROADCAST ∧ hdr.id = 0) ∧
      wire = relayFrame frame hdr.flags (flagsHopLimit hdr.flags) := by
  unfold relays at relayed
  split at relayed
  next frame' rssi' snr' around' _ same =>
    cases same
    split at relayed
    next hdr enc packet decoded parsed decodes =>
      obtain ⟨-, -, id, -⟩ := tryDecodeWirePacket_header parsed decodes
      rw [node.rebroadcasts_eq] at relayed
      split at relayed
      next => contradiction
      next =>
        split_ifs at relayed with may
        obtain ⟨-, -, src, dest, hops, named, -⟩ := may
        rw [id] at named
        exact ⟨hdr, enc, parsed, src, dest, hops, named, (Option.some.inj relayed).symm⟩
    next => contradiction
  next => contradiction

theorem Node.relays_none {node : Node cfg} (other : ∀ frame rssi snr around, request ≠ .receive frame rssi snr around) :
    node.relays codec request = none := by
  unfold relays
  split
  next frame rssi snr around _ => exact False.elim (other frame rssi snr around rfl)
  next => rfl

theorem Node.relays_accepts {node : Node cfg} {frame wire : Octets} {rssi snr : Int} {around : Surroundings}
    (relayed : node.relays codec (.receive frame rssi snr around) = some wire) :
    ∃ hdr enc, readHeader frame = some (hdr, enc) ∧ hdr.src ≠ node.nodeId ∧
      node.accepts (.receive frame rssi snr around) = some (hdr.src, hdr.id) ∧
      wire = relayFrame frame hdr.flags (flagsHopLimit hdr.flags) := by
  obtain ⟨hdr, enc, parsed, src, -, -, -, same⟩ := Node.relays_eq_some relayed
  refine ⟨hdr, enc, parsed, src, ?_, same⟩
  unfold relays at relayed
  cases accepted : node.accepts (.receive frame rssi snr around) with
  | none =>
    rw [accepted] at relayed
    contradiction
  | some pair =>
    simp only [accepts, parsed] at accepted
    split_ifs at accepted
    exact accepted.symm

/-- In the log of a step: what was delivered is the packet the step accepted, and so are, when a frame or a message
came in, the frames of other nodes that were handed to the radio. -/
structure Node.OnlyAccepted (node : Node cfg) (request : Request cfg) (log : List Record) : Prop where
  delivered : ∀ n packet, ⟨n, .delivered packet⟩ ∈ log → node.accepts request = some (packet.from_, packet.id)
  heard : ∀ frame rssi snr around, request = .receive frame rssi snr around → ∀ n wire, ⟨n, .handed wire⟩ ∈ log →
    SentBy node.nodeId wire ∨
      ∃ hdr enc, readHeader wire = some (hdr, enc) ∧ node.accepts request = some (hdr.src, hdr.id)
  carried : ∀ mesh around, request = .inject mesh around → ∀ n wire, ⟨n, .handed wire⟩ ∈ log →
    SentBy node.nodeId wire ∨ (SentBy mesh.from_ wire ∧ node.accepts request = some (mesh.from_, mesh.id))

theorem Node.MeshEffect.sentBy {node : Node cfg} {mesh : MeshPacket} {wire : Octets}
    (fine : node.MeshEffect codec mesh (.handed wire)) : SentBy node.nodeId wire ∨ SentBy mesh.from_ wire := by
  cases fine with
  | decoded payload fine =>
    have source := fine.sentBy
    split_ifs at source
    · exact Or.inl source
    · exact Or.inr source
  | encrypted payload fine =>
    cases fine with
    | handed id hopLimit hopStart fits =>
      by_cases named : mesh.from_ ≠ 0
      · exact Or.inr ⟨_, _, readHeader_octets _ _, if_pos named⟩
      · exact Or.inl ⟨_, _, readHeader_octets _ _, if_neg named⟩

theorem Node.step_onlyAccepted {node next : Node cfg} (clean : node.log = [])
    (taken : node.step codec board request = some next) : node.OnlyAccepted request next.log := by
  by_cases admin : request.isAdmin = true
  · have silent : ∀ record, record ∉ next.log := by
      intro record
      rw [Node.step_admin_log admin taken, clean]
      exact List.not_mem_nil
    exact ⟨fun _ _ member => absurd member (silent _), fun _ _ _ _ _ _ _ member => absurd member (silent _),
      fun _ _ _ _ _ member => absurd member (silent _)⟩
  obtain ⟨below, fine, log⟩ := Node.step_log clean (by simpa using admin) taken
  constructor
  · intro n packet member
    have effect : node.Effects codec request (.delivered packet) := by
      rw [log] at member
      split at member
      · rcases List.mem_cons.mp member with relayed | inside
        · cases relayed
        · exact fine _ inside
      · exact fine _ member
    cases effect with
    | delivered new => exact new
    | send asked fine => cases fine
    | phone asked fine =>
      cases fine with
      | decoded payload fine => cases fine
      | encrypted payload fine => cases fine
    | inject asked fine =>
      cases fine with
      | decoded payload fine => cases fine
      | encrypted payload fine => cases fine
    | handle heard fine =>
      cases fine with
      | ack toUs foreign asks fine => cases fine
      | module fine =>
        cases fine with
        | sent unsent port fine => cases fine
  · intro frame rssi snr around asked n wire member
    subst asked
    rw [log] at member
    split at member
    next relayed same =>
      rcases List.mem_cons.mp member with here | inside
      · cases here
        obtain ⟨hdr, enc, parsed, -, accepted, copied⟩ := Node.relays_accepts same
        refine Or.inr ⟨{ hdr with flags := relayFlags hdr.flags (flagsHopLimit hdr.flags) }, enc, ?_, accepted⟩
        rw [copied]
        exact readHeader_set_flags _ parsed
      · exact Or.inl (fine _ inside).sentBy
    next => exact Or.inl (fine _ member).sentBy
  · intro mesh around asked n wire member
    subst asked
    have effect : node.Effects codec (.inject mesh around) (.handed wire) := by
      rw [log] at member
      split at member
      next relayed same =>
        rw [Node.relays_none (by simp)] at same
        contradiction
      next => exact fine _ member
    cases effect with
    | send asked fine => contradiction
    | phone asked fine => contradiction
    | inject asked fine new =>
      cases asked
      exact fine.sentBy.imp id fun source => ⟨source, new⟩
    | handle heard fine => exact Or.inl fine.own
    | retry asked waits fits => contradiction

end

end Meshtastic
