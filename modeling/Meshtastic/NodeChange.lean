import Meshtastic.Lib.Run
import Meshtastic.PacketRoundTrip
import Meshtastic.Router

/-! Everything one step of a node can do, said once. Each call into the stack is a chain of
elementary changes; a property of nodes is an invariant as soon as these changes keep it. -/

namespace Meshtastic
open Bytes

def Effect.quiet : Effect → Bool
  | .event type _ _ => type != .txAcked
  | .mqttOnTx _ _ => true
  | .mqttOnRx _ _ => true
  | _ => false

/-- What became of a frame that was not a duplicate. -/
def Node.dispose {cfg : Kconfig} (node : Node cfg) (nodedb : NodeDbGet) (packet : Packet) (decoded : Bool) :
    Node cfg :=
  if decoded then filterAndDeliver node packet
  else node.note (.undecoded packet node.rebroadcastMode (nodedb packet.from_).isSome)

section
variable {cfg : Kconfig}

/-- Packets the request makes the node process as decoded. A frame is remembered before that. -/
inductive Node.Decoded (codec : Codec) (request : Request cfg) (node : Node cfg) (packet : Packet) : Prop
  | frame {frame : Octets} {rssi snr : Int} {around : Surroundings}
      (asked : request = .receive frame rssi snr around)
      (decodes : node.tryDecode codec around.nodedb frame rssi snr = some (.ok (packet, true)))
      (seen : node.dupCheck packet.from_ packet.id = true)
  | message {mesh : MeshPacket} {around : Surroundings} (asked : request = .inject mesh around)

/-- Packets the request makes the node send, with the id its originator gave them. -/
inductive Node.Origin (codec : Codec) (request : Request cfg) (node : Node cfg) : Packet → UInt32 → Prop
  | send {packet : Packet} {wait : Wait} {answer : Answer} (asked : request = .send packet wait answer) :
      Origin codec request node packet packet.id
  | phone {mesh : MeshPacket} {answer : Answer} {data : Data} (asked : request = .phone mesh answer)
      (payload : mesh.payload = .decoded data) : Origin codec request node (meshPbPacket mesh data) mesh.id
  | inject {mesh : MeshPacket} {around : Surroundings} {data : Data} (asked : request = .inject mesh around)
      (payload : mesh.payload = .decoded data) (onward : mesh.to_ ≠ node.nodeId) (hops : mesh.hopLimit ≠ 0) :
      Origin codec request node (meshPbPacket { mesh with viaMqtt := true } data) mesh.id
  | ack {req : Packet} {id : UInt32} {payload : Octets} (heard : node.Decoded codec request req)
      (toUs : req.to_ = node.nodeId) (foreign : req.from_ ≠ node.nodeId) :
      Origin codec request node
        (meshPbPacket (node.routingAck req id payload)
          { portnum := PORT_ROUTING, requestId := req.id, payload := payload }) 0
  | module {packet : Packet} (unsent : packet.from_ = 0 ∧ packet.id = 0 ∧ packet.wantAck = false)
      (port : packet.portnum ≠ PORT_ROUTING) : Origin codec request node packet 0

inductive Node.Handable (request : Request cfg) (node : Node cfg) (wire : Octets) : Prop
  | built {packet : Packet} {key : Octets} (made : ⟨node.nodeId, .built packet key wire⟩ ∈ node.log)
  | relayed {frame enc : Octets} {rssi snr : Int} {around : Surroundings} {hdr : WireHeader}
      (asked : request = .receive frame rssi snr around) (parsed : readHeader frame = some (hdr, enc))
      (foreign : hdr.src ≠ node.nodeId) (same : wire = relayFrame frame hdr.flags (flagsHopLimit hdr.flags))
  | encrypted {mesh : MeshPacket} {enc : Octets} (payload : mesh.payload = .encrypted enc)
      (asked : (∃ answer, request = .phone mesh answer) ∨ ∃ around, request = .inject mesh around)
  | pending {i : ReliableSlot cfg} (waits : (node.entries i).id ≠ 0) (same : wire = (node.entries i).wire)

/-- The elementary changes of a node in the course of one request. -/
inductive Node.Change (codec : Codec) (board : Board) (request : Request cfg) : Node cfg → Node cfg → Prop
  | draw (node : Node cfg) : Change codec board request node node.allocatePacketId.2
  | build {node drawn : Node cfg} {packet : Packet} {given id : UInt32} {nodedb : NodeDbGet} {wire : Octets}
      (origin : node.Origin codec request packet given) (ready : node.initialized = true)
      (draws : node.drawId given = (id, drawn))
      (made : buildWirePacket codec drawn.table nodedb (drawn.fillPacket packet id) = some (.ok wire)) :
      Change codec board request node
        (drawn.note (.built (drawn.fillPacket packet id)
          (wireKey drawn.table nodedb (drawn.fillPacket packet id)) wire))
  | hand {node : Node cfg} {wire : Octets} (source : node.Handable request wire) :
      Change codec board request node (node.note (.handed wire))
  | track {node : Node cfg} {packet : Packet} {key wire : Octets} (answer : Answer)
      (made : ⟨node.nodeId, .built packet key wire⟩ ∈ node.log) (ready : node.initialized = true) :
      Change codec board request node (node.track answer packet wire)
  | settle {node : Node cfg} {packet : Packet} (heard : node.Decoded codec request packet)
      (foreign : packet.from_ ≠ node.nodeId) : Change codec board request node (node.settle codec packet)
  | accept {node : Node cfg} {frame enc : Octets} {rssi snr : Int} {around : Surroundings} {hdr : WireHeader}
      {packet : Packet} {decoded : Bool} (asked : request = .receive frame rssi snr around)
      (parsed : readHeader frame = some (hdr, enc))
      (decodes : node.tryDecode codec around.nodedb frame rssi snr = some (.ok (packet, decoded))) :
      Change codec board request node ((node.dupAdd hdr.src hdr.id).dispose around.nodedb packet decoded)
  | garbled {node : Node cfg} {frame enc : Octets} {rssi snr : Int} {around : Surroundings} {hdr : WireHeader}
      {err : Errno} (asked : request = .receive frame rssi snr around)
      (parsed : readHeader frame = some (hdr, enc))
      (fails : node.tryDecode codec around.nodedb frame rssi snr = some (.error err)) :
      Change codec board request node (node.dupAdd hdr.src hdr.id)
  | injectSeen {node : Node cfg} {mesh : MeshPacket} {around : Surroundings}
      (asked : request = .inject mesh around) :
      Change codec board request node (node.dupAdd mesh.from_ mesh.id)
  | injectDeliver {node : Node cfg} {mesh : MeshPacket} {around : Surroundings} (packet : Packet)
      (asked : request = .inject mesh around) :
      Change codec board request node (filterAndDeliver node packet)
  | note {node : Node cfg} {effect : Effect} (quiet : effect.quiet = true) :
      Change codec board request node (node.note effect)
  | work {node : Node cfg} (now : Int) (rand : ReliableSlot cfg → UInt32) :
      Change codec board request node { node with entries := reliableWorkTable node.entries now rand }
  | init {node next : Node cfg} {config : NodeConfig} {boot : Boot} {ret : Option Errno}
      (asked : request = .init config boot) (done : meshtasticInit board node config boot = some (ret, next)) :
      Change codec board request node next
  | configure {node : Node cfg} {settings : Settings} (asked : request = .configure settings) :
      Change codec board request node (node.configure settings)

abbrev Node.Chain (codec : Codec) (board : Board) (request : Request cfg) : Node cfg → Node cfg → Prop :=
  Relation.ReflTransGen (Node.Change codec board request)

open Relation

variable {codec : Codec} {board : Board} {request : Request cfg}

/-! ## Drawing an id -/

theorem Node.allocatePacketId_id (node : Node cfg) : node.allocatePacketId.1 ≠ 0 := by
  unfold allocatePacketId
  by_cases zero : node.nextPktId = 0
  · simp [zero]
  · simp [zero]

theorem Node.drawId_node (node : Node cfg) (given : UInt32) :
    ∃ nextPktId allocated, (node.drawId given).2 =
      { node with nextPktId := nextPktId, allocated := allocated } := by
  unfold drawId allocatePacketId
  by_cases isGiven : given = 0
  · by_cases zero : node.nextPktId = 0
    · exact ⟨2, node.allocated + 1, by simp [isGiven, zero]⟩
    · exact ⟨node.nextPktId + 1, node.allocated + 1, by simp [isGiven, zero]⟩
  · exact ⟨node.nextPktId, node.allocated, by simp [isGiven]⟩

theorem Node.allocatePacketId_eq (node : Node cfg) : node.drawId 0 = node.allocatePacketId := by
  simp [drawId]

theorem Node.drawId_given (node : Node cfg) {given : UInt32} (fixed : given ≠ 0) :
    node.drawId given = (given, node) := by
  simp [drawId, fixed]

theorem Node.drawId_chain (node : Node cfg) (given : UInt32) :
    Node.Chain codec board request node (node.drawId given).2 := by
  by_cases isGiven : given = 0
  · rw [isGiven, allocatePacketId_eq]
    exact ReflTransGen.single (.draw node)
  · rw [drawId_given node isGiven]

/-! ## Sending -/

def Node.Noted (node next : Node cfg) : Prop := ∃ newer, next = { node with log := newer ++ node.log }

theorem Node.Noted.refl (node : Node cfg) : node.Noted node := ⟨[], rfl⟩

theorem Node.Noted.note {node next : Node cfg} (noted : node.Noted next) (effect : Effect) :
    node.Noted (next.note effect) := by
  obtain ⟨newer, same⟩ := noted
  subst same
  exact ⟨⟨node.nodeId, effect⟩ :: newer, rfl⟩

theorem Node.Noted.mem {node next : Node cfg} (noted : node.Noted next) {entry : Record}
    (member : entry ∈ node.log) : entry ∈ next.log := by
  obtain ⟨newer, same⟩ := noted
  subst same
  exact List.mem_append_right newer member

theorem Node.Noted.nodeId {node next : Node cfg} (noted : node.Noted next) : next.nodeId = node.nodeId := by
  obtain ⟨newer, same⟩ := noted
  rw [same]

theorem Node.Noted.initialized {node next : Node cfg} (noted : node.Noted next) :
    next.initialized = node.initialized := by
  obtain ⟨newer, same⟩ := noted
  rw [same]

theorem Node.mqttOnTx_chain (node : Node cfg) (packet : Packet) (wire : Octets) :
    Node.Chain codec board request node (node.mqttOnTx packet wire) := by
  unfold mqttOnTx
  split_ifs
  · exact ReflTransGen.single (.note rfl)
  · exact ReflTransGen.refl

theorem Node.outboundEnqueue_cases {node next : Node cfg} {wire : Octets} {wait : Wait} {radio : RadioAnswer}
    {ret : Option Errno} (sent : node.outboundEnqueue wire wait radio = (ret, next)) :
    (next = node ∧ ∃ err, ret = some err) ∨ (next = node.note (.handed wire) ∧ wire.length ≤ PKT_MAX) := by
  unfold outboundEnqueue at sent
  by_cases refused : wire.length = 0 ∨ wire.length > PKT_MAX
  · rw [if_pos refused] at sent
    cases sent
    exact Or.inl ⟨rfl, _, rfl⟩
  · rw [if_neg refused] at sent
    cases radio with
    | full err =>
      cases sent
      exact Or.inl ⟨rfl, _, rfl⟩
    | queued result => exact Or.inr ⟨(congrArg Prod.snd sent).symm, by omega⟩

theorem Node.outboundEnqueue_chain {node next : Node cfg} {wire : Octets} {wait : Wait} {radio : RadioAnswer}
    {ret : Option Errno} (source : node.Handable request wire)
    (sent : node.outboundEnqueue wire wait radio = (ret, next)) :
    Node.Chain codec board request node next := by
  rcases outboundEnqueue_cases sent with ⟨same, -⟩ | ⟨handed, -⟩
  · rw [same]
  · rw [handed]
    exact ReflTransGen.single (.hand source)

theorem sendPacketPrepare_cases {node next : Node cfg} {packet : Packet} {nodedb : NodeDbGet}
    {result : Except Errno (Packet × Octets)}
    (prepared : sendPacketPrepare codec nodedb node packet = some (result, next)) :
    ((∃ err, result = .error err) ∧ (next = node ∨ next = (node.drawId packet.id).2)) ∨
    ∃ wire, node.initialized = true ∧
      let drawn := (node.drawId packet.id).2
      let local_ := drawn.fillPacket packet (node.drawId packet.id).1
      buildWirePacket codec drawn.table nodedb local_ = some (.ok wire) ∧
      result = .ok (local_, wire) ∧ next = drawn.note (.built local_ (wireKey drawn.table nodedb local_) wire) := by
  unfold sendPacketPrepare at prepared
  by_cases ready : node.initialized = false
  · simp only [ready, if_true, Option.some.injEq, Prod.mk.injEq] at prepared
    exact Or.inl ⟨⟨_, prepared.1.symm⟩, Or.inl prepared.2.symm⟩
  · rw [if_neg ready] at prepared
    split_ifs at prepared
    · cases prepared
      exact Or.inl ⟨⟨_, rfl⟩, Or.inl rfl⟩
    · simp only at prepared
      cases made : buildWirePacket codec (node.drawId packet.id).2.table nodedb
          ((node.drawId packet.id).2.fillPacket packet (node.drawId packet.id).1) with
      | none =>
        rw [made] at prepared
        contradiction
      | some outcome =>
        rw [made] at prepared
        cases outcome with
        | error err =>
          cases prepared
          exact Or.inl ⟨⟨_, rfl⟩, Or.inr rfl⟩
        | ok wire =>
          cases prepared
          exact Or.inr ⟨wire, by simpa using ready, made, rfl, rfl⟩

theorem sendPacketComplete_chain (node : Node cfg) (local_ : Packet) (wire : Octets) (wait : Wait) :
    Node.Chain codec board request node (sendPacketComplete node local_ wire wait) := by
  unfold sendPacketComplete
  split_ifs
  · exact ReflTransGen.head (.note rfl) (Node.mqttOnTx_chain _ local_ wire)
  · exact ReflTransGen.refl

theorem sendPacketComplete_noted {node next : Node cfg} (noted : node.Noted next) (local_ : Packet)
    (wire : Octets) (wait : Wait) : node.Noted (sendPacketComplete next local_ wire wait) := by
  unfold sendPacketComplete Node.mqttOnTx
  split_ifs
  · exact (noted.note _).note _
  · exact noted.note _
  · exact noted

/-- A send fails before the frame is built, or offers the frame to the radio; when the radio takes it the
send is completed and the packet tracked. -/
theorem sendPacket_stages {node next : Node cfg} {packet : Packet} {wait : Wait} {answer : Answer}
    {ret : Option Errno} (sent : sendPacket codec answer node packet wait = some (ret, next)) :
    ((∃ err, ret = some err) ∧ (next = node ∨ next = (node.drawId packet.id).2)) ∨
    ∃ wire after, node.initialized = true ∧
      let drawn := (node.drawId packet.id).2
      let local_ := drawn.fillPacket packet (node.drawId packet.id).1
      buildWirePacket codec drawn.table answer.nodedb local_ = some (.ok wire) ∧
      (drawn.note (.built local_ (wireKey drawn.table answer.nodedb local_) wire)).outboundEnqueue wire wait
        answer.radio = (ret, after) ∧
      next = if ret = none then (sendPacketComplete after local_ wire wait).track answer local_ wire else after := by
  unfold sendPacket at sent
  cases prepared : sendPacketPrepare codec answer.nodedb node packet with
  | none =>
    rw [prepared] at sent
    contradiction
  | some pair =>
    obtain ⟨result, middle⟩ := pair
    rw [prepared] at sent
    rcases sendPacketPrepare_cases prepared with ⟨⟨err, failed⟩, stays⟩ | ⟨wire, ready, made, built, same⟩
    · subst failed
      cases sent
      exact Or.inl ⟨⟨err, rfl⟩, stays⟩
    · subst built same
      simp only at sent
      split at sent
      next err after queued =>
        cases sent
        exact Or.inr ⟨wire, next, ready, made, queued, rfl⟩
      next after queued =>
        cases sent
        exact Or.inr ⟨wire, after, ready, made, queued, rfl⟩

theorem sendBuilt_chain {node after : Node cfg} {local_ : Packet} {key wire : Octets} {wait : Wait} (answer : Answer)
    {ret : Option Errno} (made : ⟨node.nodeId, .built local_ key wire⟩ ∈ node.log) (ready : node.initialized = true)
    (queued : node.outboundEnqueue wire wait answer.radio = (ret, after)) :
    Node.Chain codec board request node
      (if ret = none then (sendPacketComplete after local_ wire wait).track answer local_ wire else after) := by
  have handed : Node.Chain codec board request node after := Node.outboundEnqueue_chain (.built made) queued
  split_ifs
  swap
  · exact handed
  have noted : node.Noted after := by
    rcases Node.outboundEnqueue_cases queued with ⟨same, -⟩ | ⟨handed, -⟩
    · exact same ▸ Node.Noted.refl node
    · exact handed ▸ (Node.Noted.refl node).note _
  have done := sendPacketComplete_noted noted local_ wire wait
  have completed : Node.Chain codec board request after (sendPacketComplete after local_ wire wait) :=
    sendPacketComplete_chain after local_ wire wait
  have known : ⟨(sendPacketComplete after local_ wire wait).nodeId, .built local_ key wire⟩ ∈
      (sendPacketComplete after local_ wire wait).log := by
    rw [done.nodeId]
    exact done.mem made
  exact (handed.trans completed).tail (.track answer known (done.initialized.trans ready))

theorem sendPacket_cases {node next : Node cfg} {packet : Packet} {wait : Wait} {answer : Answer}
    {ret : Option Errno} (sent : sendPacket codec answer node packet wait = some (ret, next)) :
    next = node ∨ next = (node.drawId packet.id).2 ∨
    ∃ wire, node.initialized = true ∧
      let drawn := (node.drawId packet.id).2
      let local_ := drawn.fillPacket packet (node.drawId packet.id).1
      buildWirePacket codec drawn.table answer.nodedb local_ = some (.ok wire) ∧
      Node.Chain codec board request
        (drawn.note (.built local_ (wireKey drawn.table answer.nodedb local_) wire)) next := by
  rcases sendPacket_stages sent with ⟨-, same | drawn⟩ | ⟨wire, after, ready, made, queued, ended⟩
  · exact Or.inl same
  · exact Or.inr (Or.inl drawn)
  · refine Or.inr (Or.inr ⟨wire, ready, made, ?_⟩)
    obtain ⟨nextPktId, allocated, drawn⟩ := node.drawId_node packet.id
    rw [ended]
    refine sendBuilt_chain answer List.mem_cons_self ?_ queued
    rw [drawn]
    exact ready

theorem sendPacket_chain {node next : Node cfg} {packet : Packet} {wait : Wait} {answer : Answer}
    {ret : Option Errno} (origin : node.Origin codec request packet packet.id)
    (sent : sendPacket codec answer node packet wait = some (ret, next)) :
    Node.Chain codec board request node next := by
  rcases sendPacket_cases sent with same | drawn | ⟨wire, ready, made, later⟩
  · rw [same]
  · rw [drawn]
    exact node.drawId_chain packet.id
  · exact ReflTransGen.head (.build origin ready rfl made) later

theorem sendPacket_drawn_chain {node next : Node cfg} {packet : Packet} {wait : Wait} {answer : Answer}
    {ret : Option Errno} (origin : node.Origin codec request packet 0)
    (id : packet.id = node.allocatePacketId.1)
    (sent : sendPacket codec answer node.allocatePacketId.2 packet wait = some (ret, next)) :
    Node.Chain codec board request node next := by
  have fixed : packet.id ≠ 0 := id ▸ node.allocatePacketId_id
  have draws : node.drawId 0 = (packet.id, node.allocatePacketId.2) := by
    rw [node.allocatePacketId_eq, id]
  have drew : Node.Chain codec board request node node.allocatePacketId.2 := ReflTransGen.single (.draw node)
  rcases sendPacket_cases sent with same | drawn | ⟨wire, ready, made, later⟩
  · rw [same]
    exact drew
  · rw [drawn, Node.drawId_given _ fixed]
    exact drew
  · rw [Node.drawId_given _ fixed] at made later
    obtain ⟨nextPktId, allocated, same⟩ := node.drawId_node 0
    rw [node.allocatePacketId_eq] at same
    have alive : node.initialized = true := by
      rw [same] at ready
      exact ready
    exact ReflTransGen.head (.build origin alive draws made) later

theorem sendEncryptedMeshPb_chain {node next : Node cfg} {mesh : MeshPacket} {enc : Octets} {answer : Answer}
    {ret : Option Errno} (source : ∀ (at_ : Node cfg) (wire : Octets), at_.Handable request wire)
    (sent : sendEncryptedMeshPb answer node mesh enc = (ret, next)) :
    Node.Chain codec board request node next := by
  unfold sendEncryptedMeshPb at sent
  by_cases long : enc.length > PAYLOAD_MAX
  · rw [if_pos long] at sent
    cases sent
    exact ReflTransGen.refl
  · rw [if_neg long] at sent
    simp only at sent
    split at sent
    next err after queued =>
      cases sent
      exact (node.drawId_chain mesh.id).trans (Node.outboundEnqueue_chain (source _ _) queued)
    next after queued =>
      cases sent
      exact ((node.drawId_chain mesh.id).trans (Node.outboundEnqueue_chain (source _ _) queued)).trans
        (Node.mqttOnTx_chain after _ _)

/-! ## Receiving -/

theorem Node.settle_noted (codec : Codec) (node : Node cfg) (packet : Packet) :
    ∃ entries, ({ node with entries := entries } : Node cfg).Noted (node.settle codec packet) := by
  unfold settle
  split
  · exact ⟨_, Node.Noted.refl _⟩
  · exact ⟨_, (Node.Noted.refl _).note _⟩

theorem Node.settle_nodeId (codec : Codec) (node : Node cfg) (packet : Packet) :
    (node.settle codec packet).nodeId = node.nodeId := by
  obtain ⟨entries, noted⟩ := node.settle_noted codec packet
  exact noted.nodeId

theorem Node.Decoded.settle {node : Node cfg} {packet other : Packet} (heard : node.Decoded codec request packet) :
    (node.settle codec other).Decoded codec request packet := by
  obtain ⟨entries, newer, same⟩ := node.settle_noted codec other
  rw [same]
  cases heard with
  | frame asked decodes seen => exact .frame asked decodes seen
  | message asked => exact .message asked

theorem routingSendAck_chain {node next : Node cfg} {req : Packet} {answer : Answer} {ret : Option Errno}
    (heard : node.Decoded codec request req) (foreign : req.from_ ≠ node.nodeId)
    (sent : routingSendAck codec answer node req = some (ret, next)) :
    Node.Chain codec board request node next := by
  unfold routingSendAck at sent
  by_cases toUs : req.to_ = node.nodeId
  · rw [if_neg (not_not.mpr toUs)] at sent
    simp only at sent
    split_ifs at sent
    · cases sent
      exact ReflTransGen.single (.draw node)
    · obtain ⟨nextPktId, allocated, same⟩ := node.drawId_node 0
      rw [node.allocatePacketId_eq] at same
      have ack : node.allocatePacketId.2.routingAck req = node.routingAck req := by
        rw [same]
        rfl
      rw [ack] at sent
      exact sendPacket_drawn_chain (.ack heard toUs foreign) rfl sent
  · rw [if_pos toUs] at sent
    cases sent
    exact ReflTransGen.refl

theorem routingOnDecoded_chain {node next : Node cfg} {packet : Packet} {answer : Answer}
    (heard : node.Decoded codec request packet)
    (done : routingOnDecoded codec answer node packet = some next) :
    Node.Chain codec board request node next := by
  unfold routingOnDecoded at done
  by_cases ours : packetIsToUs node.nodeId packet = false ∨ packet.from_ = node.nodeId
  · rw [if_pos ours] at done
    cases done
    exact ReflTransGen.refl
  · rw [if_neg ours] at done
    have foreign : packet.from_ ≠ node.nodeId := fun same => ours (Or.inr same)
    have settled : Node.Change codec board request node (node.settle codec packet) := .settle heard foreign
    simp only at done
    split_ifs at done
    · obtain ⟨⟨ret, after⟩, acked, same⟩ := Option.map_eq_some_iff.mp done
      cases same
      rw [← node.settle_nodeId codec packet] at foreign
      exact ReflTransGen.head settled (routingSendAck_chain heard.settle foreign acked)
    · cases done
      exact ReflTransGen.single settled

theorem ModulePacket.port_ne (made : ModulePacket) : made.packet.portnum ≠ PORT_ROUTING := by
  rcases made.port with port | port | port
  · exact port ▸ by decide
  · exact port ▸ by decide
  · exact port ▸ by decide

theorem sendProbes_chain {node next : Node cfg} {probes : List (ModulePacket × Answer)}
    (sent : sendProbes codec node probes = some next) : Node.Chain codec board request node next := by
  induction probes generalizing node with
  | nil =>
    cases sent
    exact ReflTransGen.refl
  | cons probe rest ih =>
    obtain ⟨made, answer⟩ := probe
    unfold sendProbes at sent
    cases first : sendPacket codec answer node made.packet .noWait with
    | none =>
      rw [first] at sent
      contradiction
    | some pair =>
      rw [first] at sent
      have origin : node.Origin codec request made.packet made.packet.id :=
        made.unsent.2.1.symm ▸ .module made.unsent made.port_ne
      exact (sendPacket_chain origin first).trans (ih sent)

theorem packetSetReplyTo_keeps (reply req : Packet) :
    (packetSetReplyTo reply req).from_ = reply.from_ ∧ (packetSetReplyTo reply req).id = reply.id ∧
      (packetSetReplyTo reply req).wantAck = reply.wantAck ∧
      (packetSetReplyTo reply req).portnum = reply.portnum := by
  unfold packetSetReplyTo
  dsimp only
  split_ifs <;> exact ⟨rfl, rfl, rfl, rfl⟩

theorem dispatchModules_chain {node next : Node cfg} {packet : Packet} {modules : Modules}
    (done : dispatchModules codec modules node packet = some next) : Node.Chain codec board request node next := by
  unfold dispatchModules at done
  cases probed : sendProbes codec node modules.probes with
  | none =>
    rw [probed] at done
    contradiction
  | some after =>
    rw [probed] at done
    have probes : Node.Chain codec board request node after := sendProbes_chain probed
    simp only at done
    split_ifs at done
    · cases done
      exact probes
    · cases answered : modules.reply with
      | none =>
        rw [answered] at done
        cases done
        exact probes
      | some reply =>
        obtain ⟨made, answer⟩ := reply
        rw [answered] at done
        obtain ⟨⟨ret, last⟩, sent, same⟩ := Option.map_eq_some_iff.mp done
        cases same
        obtain ⟨from_, id, wantAck, port⟩ := packetSetReplyTo_keeps made.packet packet
        have unsent := made.unsent
        rw [← from_, ← id, ← wantAck] at unsent
        have origin : after.Origin codec request (packetSetReplyTo made.packet packet)
            (packetSetReplyTo made.packet packet).id :=
          unsent.2.1.symm ▸ .module unsent (port ▸ made.port_ne)
        exact probes.trans (sendPacket_chain origin sent)

theorem tryDecodeWirePacket_header {t : ChannelTable} {mode : RebroadcastMode} {nodedb : NodeDbGet}
    {frame enc : Octets} {rssi snr : Int} {payloadLen : Nat} {hdr : WireHeader} {packet : Packet} {decoded : Bool}
    (parsed : readHeader frame = some (hdr, enc))
    (decodes : tryDecodeWirePacket codec t mode nodedb frame rssi snr payloadLen = some (.ok (packet, decoded))) :
    packet.from_ = hdr.src ∧ packet.to_ = hdr.dest ∧ packet.id = hdr.id ∧
      packet.wantAck = flagsWantAck hdr.flags ∧ packet.viaMqtt = flagsViaMqtt hdr.flags := by
  rcases tryDecodeWirePacket_cases parsed decodes with ⟨passed, -⟩ | ⟨data, ch, -, -, ⟨-, heard⟩ | ⟨-, failed⟩⟩
  · cases passed
    exact ⟨rfl, rfl, rfl, rfl, rfl⟩
  · cases heard
    exact ⟨rfl, rfl, rfl, rfl, rfl⟩
  · contradiction

theorem Node.dupAdd_dupCheck (node : Node cfg) (src id : UInt32) : (node.dupAdd src id).dupCheck src id = true := by
  simp only [dupCheck, decide_eq_true_eq]
  exact ⟨node.dupHead, Function.update_self _ _ _⟩

theorem Node.Decoded.noted {node next : Node cfg} {packet : Packet} (heard : node.Decoded codec request packet)
    (noted : node.Noted next) : next.Decoded codec request packet := by
  obtain ⟨newer, same⟩ := noted
  rw [same]
  cases heard with
  | frame asked decodes seen => exact .frame asked decodes seen
  | message asked => exact .message asked

theorem Node.mqttOnRx_noted (node : Node cfg) (packet : Packet) (wire : Option Octets) :
    node.Noted (node.mqttOnRx packet wire) := by
  unfold mqttOnRx
  split_ifs
  · exact (Node.Noted.refl node).note _
  · exact Node.Noted.refl node

theorem Node.mqttOnRx_chain (node : Node cfg) (packet : Packet) (wire : Option Octets) :
    Node.Chain codec board request node (node.mqttOnRx packet wire) := by
  unfold mqttOnRx
  split_ifs
  · exact ReflTransGen.single (.note rfl)
  · exact ReflTransGen.refl

theorem filterAndDeliver_noted (node : Node cfg) (packet : Packet) : node.Noted (filterAndDeliver node packet) := by
  unfold filterAndDeliver deliverPacket
  split_ifs
  · exact (Node.Noted.refl node).note _
  · exact ((Node.Noted.refl node).note _).note _
  · exact Node.Noted.refl node

theorem handleDecoded_chain {node next : Node cfg} {packet : Packet} {wire : Option Octets} {around : Surroundings}
    (heard : node.Decoded codec request packet)
    (done : handleDecoded codec around node packet wire = some next) : Node.Chain codec board request node next := by
  unfold handleDecoded at done
  cases routed : routingOnDecoded codec around.ack (node.mqttOnRx packet wire) packet with
  | none =>
    rw [routed] at done
    contradiction
  | some after =>
    rw [routed] at done
    have noted : Node.Chain codec board request node (node.mqttOnRx packet wire) := node.mqttOnRx_chain packet wire
    exact (noted.trans (routingOnDecoded_chain (heard.noted (node.mqttOnRx_noted packet wire)) routed)).trans
      (dispatchModules_chain done)

theorem routingSniffRebroadcast_chain {node : Node cfg} {frame enc : Octets} {rssi snr : Int}
    {around : Surroundings} {hdr : WireHeader} (radio : RadioAnswer) (packet : Packet)
    (asked : request = .receive frame rssi snr around) (parsed : readHeader frame = some (hdr, enc)) :
    Node.Chain codec board request node (routingSniffRebroadcast radio node hdr frame packet) := by
  unfold routingSniffRebroadcast relayPacket
  by_cases own : hdr.src = node.nodeId ∨ hdr.dest = node.nodeId
  · rw [if_pos own]
    split_ifs <;> exact ReflTransGen.refl
  · rw [if_neg own]
    have foreign : hdr.src ≠ node.nodeId := fun same => own (Or.inl same)
    split_ifs
    all_goals first
      | exact ReflTransGen.refl
      | exact Node.outboundEnqueue_chain (.relayed asked parsed foreign rfl) rfl

/-- The ways that `meshtastic_router_process_lora_rx` can take with a frame, and the node it leaves. -/
inductive Node.Reception (codec : Codec) (around : Surroundings) (node : Node cfg) (frame : Octets) (rssi snr : Int) :
    Node cfg → Prop
  | short (parsed : readHeader frame = none) : Reception codec around node frame rssi snr node
  | ignored {hdr : WireHeader} {enc : Octets} (parsed : readHeader frame = some (hdr, enc))
      (ignored : cfg.mqttIgnoreMqtt = true ∧ flagsViaMqtt hdr.flags = true) :
      Reception codec around node frame rssi snr node
  | duplicate {hdr : WireHeader} {enc : Octets} (parsed : readHeader frame = some (hdr, enc))
      (heeded : ¬(cfg.mqttIgnoreMqtt = true ∧ flagsViaMqtt hdr.flags = true))
      (seen : node.dupCheck hdr.src hdr.id = true) : Reception codec around node frame rssi snr node
  | reacked {hdr : WireHeader} {enc : Octets} {packet : Packet} {next : Node cfg}
      (parsed : readHeader frame = some (hdr, enc))
      (heeded : ¬(cfg.mqttIgnoreMqtt = true ∧ flagsViaMqtt hdr.flags = true))
      (seen : node.dupCheck hdr.src hdr.id = true)
      (decodes : node.tryDecode codec around.nodedb frame rssi snr = some (.ok (packet, true)))
      (acked : routingOnDecoded codec around.ack node packet = some next) :
      Reception codec around node frame rssi snr next
  | garbled {hdr : WireHeader} {enc : Octets} {err : Errno} (parsed : readHeader frame = some (hdr, enc))
      (heeded : ¬(cfg.mqttIgnoreMqtt = true ∧ flagsViaMqtt hdr.flags = true))
      (fresh : ¬node.dupCheck hdr.src hdr.id = true)
      (fails : node.tryDecode codec around.nodedb frame rssi snr = some (.error err)) :
      Reception codec around node frame rssi snr (node.dupAdd hdr.src hdr.id)
  | undecoded {hdr : WireHeader} {enc : Octets} {packet : Packet} (parsed : readHeader frame = some (hdr, enc))
      (heeded : ¬(cfg.mqttIgnoreMqtt = true ∧ flagsViaMqtt hdr.flags = true))
      (fresh : ¬node.dupCheck hdr.src hdr.id = true)
      (decodes : node.tryDecode codec around.nodedb frame rssi snr = some (.ok (packet, false))) :
      Reception codec around node frame rssi snr (routingSniffRebroadcast around.relay.radio
        ((node.dupAdd hdr.src hdr.id).dispose around.nodedb packet false) hdr frame packet)
  | decoded {hdr : WireHeader} {enc : Octets} {packet : Packet} {after : Node cfg}
      (parsed : readHeader frame = some (hdr, enc))
      (heeded : ¬(cfg.mqttIgnoreMqtt = true ∧ flagsViaMqtt hdr.flags = true))
      (fresh : ¬node.dupCheck hdr.src hdr.id = true)
      (decodes : node.tryDecode codec around.nodedb frame rssi snr = some (.ok (packet, true)))
      (handled : handleDecoded codec around ((node.dupAdd hdr.src hdr.id).dispose around.nodedb packet true) packet
        (some frame) = some after) :
      Reception codec around node frame rssi snr (routingSniffRebroadcast around.relay.radio after hdr frame packet)

theorem processLoraRx_cases {node next : Node cfg} {frame : Octets} {rssi snr : Int} {around : Surroundings}
    (done : processLoraRx codec around node frame rssi snr = some next) :
    node.Reception codec around frame rssi snr next := by
  unfold processLoraRx at done
  cases parsed : readHeader frame with
  | none =>
    rw [parsed] at done
    cases done
    exact .short parsed
  | some pair =>
    obtain ⟨hdr, enc⟩ := pair
    rw [parsed] at done
    simp only at done
    split_ifs at done with ignored seen
    · cases done
      exact .ignored parsed ignored
    · unfold reackDuplicate at done
      split_ifs at done
      · cases done
        exact .duplicate parsed ignored seen
      · split at done
        next => contradiction
        next packet decodes => exact .reacked parsed ignored seen decodes done
        next =>
          cases done
          exact .duplicate parsed ignored seen
    · split at done
      next => contradiction
      next err fails =>
        cases done
        exact .garbled parsed ignored seen fails
      next packet decoded decodes =>
        obtain ⟨after, handled, same⟩ := Option.map_eq_some_iff.mp done
        subst same
        cases decoded with
        | false =>
          cases handled
          exact .undecoded parsed ignored seen decodes
        | true => exact .decoded parsed ignored seen decodes handled

theorem processLoraRx_chain {node next : Node cfg} {frame : Octets} {rssi snr : Int} {around : Surroundings}
    (asked : request = .receive frame rssi snr around)
    (done : processLoraRx codec around node frame rssi snr = some next) :
    Node.Chain codec board request node next := by
  cases processLoraRx_cases done with
  | short parsed => exact ReflTransGen.refl
  | ignored parsed ignored => exact ReflTransGen.refl
  | duplicate parsed heeded seen => exact ReflTransGen.refl
  | reacked parsed heeded seen decodes acked =>
    obtain ⟨src, -, id, -⟩ := tryDecodeWirePacket_header parsed decodes
    exact routingOnDecoded_chain (.frame asked decodes (src ▸ id ▸ seen)) acked
  | garbled parsed heeded fresh fails => exact ReflTransGen.single (.garbled asked parsed fails)
  | undecoded parsed heeded fresh decodes =>
    exact ReflTransGen.head (.accept asked parsed decodes) (routingSniffRebroadcast_chain _ _ asked parsed)
  | @decoded hdr enc packet after parsed heeded fresh decodes handled =>
    obtain ⟨src, -, id, -⟩ := tryDecodeWirePacket_header parsed decodes
    have known := node.dupAdd_dupCheck hdr.src hdr.id
    have heard : (node.dupAdd hdr.src hdr.id).Decoded codec request packet :=
      .frame asked decodes (by rw [src, id]; exact known)
    have accepted : Node.Change codec board request node
        ((node.dupAdd hdr.src hdr.id).dispose around.nodedb packet true) := .accept asked parsed decodes
    have handling : Node.Chain codec board request _ after :=
      handleDecoded_chain (heard.noted (filterAndDeliver_noted _ packet)) handled
    exact ReflTransGen.head accepted (handling.trans (routingSniffRebroadcast_chain _ packet asked parsed))

/-! ## The gateway -/

theorem injectRelay_chain {node next : Node cfg} {mesh : MeshPacket} {around outside : Surroundings}
    {ret : Option Errno} (asked : request = .inject mesh outside)
    (done : injectRelay codec around node { mesh with viaMqtt := true } = some (ret, next)) :
    Node.Chain codec board request node next := by
  unfold injectRelay at done
  by_cases toUs : mesh.to_ = node.nodeId
  · rw [if_pos toUs] at done
    cases done
    exact ReflTransGen.refl
  rw [if_neg toUs] at done
  cases payload : mesh.payload with
  | encrypted enc =>
    have source : ∀ (at_ : Node cfg) (wire : Octets), at_.Handable request wire :=
      fun _ _ => .encrypted payload (Or.inr ⟨outside, asked⟩)
    by_cases last : mesh.hopLimit = 0
    · simp only [last, if_true, payload, Option.some.injEq] at done
      unfold relayInjectedEncryptedMeshPacket at done
      split_ifs at done
      · cases done
        exact ReflTransGen.refl
      · exact (node.drawId_chain mesh.id).trans (Node.outboundEnqueue_chain (source _ _) done)
    · rw [if_neg last] at done
      simp only [sendMeshPb, payload, Option.some.injEq] at done
      exact sendEncryptedMeshPb_chain source done
  | decoded data =>
    by_cases last : mesh.hopLimit = 0
    · simp only [last, if_true, payload, Option.some.injEq, Prod.mk.injEq] at done
      rw [done.2]
    · rw [if_neg last] at done
      simp only [sendMeshPb, payload] at done
      exact sendPacket_chain (.inject asked payload toUs last) done
  | unset enc =>
    by_cases last : mesh.hopLimit = 0
    · simp only [last, if_true, payload, Option.some.injEq, Prod.mk.injEq] at done
      rw [done.2]
    · rw [if_neg last] at done
      simp only [sendMeshPb, payload, Option.some.injEq, Prod.mk.injEq] at done
      rw [done.2]

theorem injectDeliver_chain {node next : Node cfg} {mesh work : MeshPacket} {around outside : Surroundings}
    {ret : Option Errno} (asked : request = .inject mesh outside)
    (done : injectDeliver codec around node work = some (ret, next)) : Node.Chain codec board request node next := by
  unfold injectDeliver at done
  split at done
  next => contradiction
  next =>
    cases done
    exact ReflTransGen.refl
  next packet _ =>
    obtain ⟨after, handled, same⟩ := Option.map_eq_some_iff.mp done
    cases same
    exact ReflTransGen.head (.injectDeliver _ asked) (handleDecoded_chain (.message asked) handled)

theorem injectDownlinkMeshPacket_chain {node next : Node cfg} {mesh : MeshPacket} {around : Surroundings}
    {ret : Option Errno} (asked : request = .inject mesh around)
    (done : injectDownlinkMeshPacket codec around node mesh = some (ret, next)) :
    Node.Chain codec board request node next := by
  unfold injectDownlinkMeshPacket at done
  by_cases ready : node.initialized = false
  · rw [if_pos ready] at done
    cases done
    exact ReflTransGen.refl
  rw [if_neg ready] at done
  simp only at done
  by_cases seen : node.dupCheck mesh.from_ mesh.id = true
  · rw [if_pos seen] at done
    cases done
    exact ReflTransGen.refl
  rw [if_neg seen] at done
  have remembered : Node.Change codec board request node (node.dupAdd mesh.from_ mesh.id) := .injectSeen asked
  split at done
  next => contradiction
  next err after relayed =>
    cases done
    exact ReflTransGen.head remembered (injectRelay_chain asked relayed)
  next after relayed =>
    have first : Node.Chain codec board request node after :=
      ReflTransGen.head remembered (injectRelay_chain asked relayed)
    split_ifs at done
    · cases done
      exact first
    · split at done
      next => exact first.trans (injectDeliver_chain asked done)
      next =>
        split at done
        next => contradiction
        next =>
          cases done
          exact first
        next => exact first.trans (injectDeliver_chain asked done)

/-! ## The retry timer -/

theorem Node.retransmit_chain {node : Node cfg} (radio : ReliableSlot cfg → RadioAnswer)
    (slots : List (ReliableSlot cfg)) (waits : ∀ i ∈ slots, (node.entries i).id ≠ 0) :
    Node.Chain codec board request node (node.retransmit radio slots) ∧
      node.Noted (node.retransmit radio slots) := by
  induction slots generalizing node with
  | nil => exact ⟨ReflTransGen.refl, Node.Noted.refl node⟩
  | cons i rest ih =>
    have source : node.Handable request (node.entries i).wire := .pending (waits i List.mem_cons_self) rfl
    cases queued : node.outboundEnqueue (node.entries i).wire .noWait (radio i) with
    | mk err after =>
      have handed : Node.Chain codec board request node after := outboundEnqueue_chain source queued
      have same : node.retransmit radio (i :: rest) = after.retransmit radio rest := by
        rw [retransmit, queued]
      have noted : node.Noted after := by
        rcases outboundEnqueue_cases queued with ⟨same, -⟩ | ⟨handed, -⟩
        · exact same ▸ Node.Noted.refl node
        · exact handed ▸ (Node.Noted.refl node).note _
      obtain ⟨newer, fields⟩ := noted
      have later : ∀ j ∈ rest, (after.entries j).id ≠ 0 := by
        intro j member
        rw [fields]
        exact waits j (List.mem_cons_of_mem _ member)
      obtain ⟨chain, more, last⟩ := ih later
      rw [same]
      refine ⟨handed.trans chain, more ++ newer, ?_⟩
      rw [last, fields]
      simp

theorem Node.report_chain {node : Node cfg} (reports : List ReliableReport)
    (expired : ∀ report ∈ reports, report.type ≠ .txAcked) :
    Node.Chain codec board request node (node.report reports) := by
  induction reports generalizing node with
  | nil => exact ReflTransGen.refl
  | cons report rest ih =>
    have quiet : (Effect.event report.type report.err
        (reliableEmitPacket node.nodeId report.outcome)).quiet = true := by
      have type := expired report List.mem_cons_self
      simpa [Effect.quiet] using type
    exact ReflTransGen.head (.note quiet) (ih (fun other member => expired other (List.mem_cons_of_mem _ member)))

theorem workSlots_pending {entries : ReliableTable cfg} {now : Int} {i : ReliableSlot cfg}
    (due : i ∈ workSlots entries now .retransmit) : (entries i).id ≠ 0 := by
  unfold workSlots workAction at due
  have action := (List.mem_filter.mp due).2
  intro free
  simp [free] at action

theorem Node.work_chain (node : Node cfg) (now : Int) (rand : ReliableSlot cfg → UInt32)
    (radio : ReliableSlot cfg → RadioAnswer) : Node.Chain codec board request node (node.work now rand radio) := by
  obtain ⟨sent, newer, same⟩ := node.retransmit_chain radio (workSlots node.entries now .retransmit)
    (fun i due => workSlots_pending due)
  have table : Node.Change codec board request
      (node.retransmit radio (workSlots node.entries now .retransmit)) _ := .work now rand
  have entries : (node.retransmit radio (workSlots node.entries now .retransmit)).entries = node.entries := by
    rw [same]
  rw [entries] at table
  refine (sent.tail table).trans (report_chain _ ?_)
  intro report member
  obtain ⟨i, -, expiry⟩ := List.mem_map.mp member
  rw [← expiry]
  exact (by decide : EventType.txNoAck ≠ EventType.txAcked)

/-! ## Steps and runs -/

/-- Each step is a chain of changes for its request. -/
theorem Node.step_chain {node next : Node cfg} (taken : node.step codec board request = some next) :
    Node.Chain codec board request node next := by
  cases request with
  | init config boot =>
    obtain ⟨⟨ret, after⟩, done, same⟩ := Option.map_eq_some_iff.mp taken
    cases same
    exact ReflTransGen.single (.init rfl done)
  | configure settings =>
    cases taken
    exact ReflTransGen.single (.configure rfl)
  | send packet wait answer =>
    obtain ⟨⟨ret, after⟩, done, same⟩ := Option.map_eq_some_iff.mp taken
    cases same
    exact sendPacket_chain (.send rfl) done
  | phone mesh answer =>
    obtain ⟨⟨ret, after⟩, done, same⟩ := Option.map_eq_some_iff.mp taken
    cases same
    unfold sendMeshPb at done
    cases payload : mesh.payload with
    | decoded data =>
      rw [payload] at done
      exact sendPacket_chain (.phone rfl payload) done
    | encrypted enc =>
      rw [payload] at done
      exact sendEncryptedMeshPb_chain (fun _ _ => .encrypted payload (Or.inl ⟨answer, rfl⟩)) (Option.some.inj done)
    | unset enc =>
      rw [payload] at done
      cases done
      exact ReflTransGen.refl
  | receive frame rssi snr around => exact processLoraRx_chain rfl taken
  | inject mesh around =>
    obtain ⟨⟨ret, after⟩, done, same⟩ := Option.map_eq_some_iff.mp taken
    cases same
    exact injectDownlinkMeshPacket_chain rfl done
  | work now rand radio =>
    cases taken
    exact node.work_chain now rand radio

end

end Meshtastic
