import Meshtastic.Lib.History
import Meshtastic.Network
import Meshtastic.NodeRules

/-! What an acknowledgement stands for. The receiver acknowledges a packet when it takes it as new
and again for every copy its duplicate cache still knows, so behind each TX_ACKED there is a moment,
after the send, at which the destination took the packet as new. Whether it delivered it then is up
to its rebroadcast mode, which the acknowledgement does not look at. -/

namespace Meshtastic
open Bytes

/-- The node took a packet of `src` with this id as new, after it was built. -/
def TookUp (node src id : UInt32) (log : List Record) : Prop :=
  ∃ sent key wire, ⟨src, .built sent key wire⟩ ∈ log ∧ sent.id = id ∧
    (sent.to_ = node → sent.portnum ≠ PORT_UNKNOWN → ∃ newer effect older,
      log = newer ++ ⟨node, effect⟩ :: older ∧ ⟨src, .built sent key wire⟩ ∈ older ∧ Takes sent effect)

/-- Behind an acknowledgement: a packet to its author that the author took up. -/
def Answers (node : UInt32) (answer : Packet) (log : List Record) : Prop :=
  TookUp node answer.to_ answer.requestId log ∧
    ∃ sent key wire, ⟨answer.to_, .built sent key wire⟩ ∈ log ∧ sent.id = answer.requestId ∧
      sent.to_ = node ∧ sent.portnum ≠ PORT_UNKNOWN

/-- Behind a TX_ACKED event: the packet it reports and an acknowledgement of its id. -/
def Acknowledged (node : UInt32) (acked : Packet) (log : List Record) : Prop :=
  (∃ sent key wire, ⟨node, .built sent key wire⟩ ∈ log ∧ sent.id = acked.id ∧ sent.to_ = acked.to_ ∧
    sent.portnum = acked.portnum ∧ sent.wantAck = true) ∧
  ∃ other answer key wire, ⟨other, .built answer key wire⟩ ∈ log ∧ answer.portnum = PORT_ROUTING ∧
    answer.to_ = node ∧ answer.requestId = acked.id

def MayFollow (codec : Codec) (t : ChannelTable) (record : Record) (older : List Record) : Prop :=
  match record.effect with
  | .built packet key wire => packet.from_ = record.node ∧ record.node ≠ 0 ∧ FrameOf codec t packet key wire ∧
      (packet.portnum = PORT_ROUTING → Answers record.node packet older)
  | .handed wire => ∃ other sent key wire', ⟨other, .built sent key wire'⟩ ∈ older ∧ FrameOf codec t sent key wire
  | .event .txAcked _ acked => Acknowledged record.node acked older
  | _ => True

section
variable {cfg : Kconfig}

/-- A node whose log, duplicate cache and pending packets can be accounted for. -/
structure Node.Accounted (codec : Codec) (t : ChannelTable) (node : Node cfg) : Prop where
  lawful : History.Lawful (MayFollow codec t) node.log
  seen : ∀ i, node.dupCache i ≠ (0, 0) → TookUp node.nodeId (node.dupCache i).1 (node.dupCache i).2 node.log
  pending : ∀ i, (node.entries i).id ≠ 0 → ∃ sent key,
    ⟨node.nodeId, .built sent key (node.entries i).wire⟩ ∈ node.log ∧ sent.id = (node.entries i).id ∧
      sent.to_ = (node.entries i).dest ∧ sent.portnum = (node.entries i).portnum ∧ sent.wantAck = true

/-- A frame that is received is a frame of a packet some node has built. -/
def Request.Heard (codec : Codec) (t : ChannelTable) (log : List Record) (request : Request cfg) : Prop :=
  ∀ frame rssi snr around, request = .receive frame rssi snr around →
    ∃ other sent key wire, ⟨other, .built sent key wire⟩ ∈ log ∧ FrameOf codec t sent key frame

variable {codec : Codec} {t : ChannelTable} {board : Board} {request : Request cfg}

theorem TookUp.older {node src id : UInt32} {log : List Record} (took : TookUp node src id log)
    (newer : List Record) : TookUp node src id (newer ++ log) := by
  obtain ⟨sent, key, wire, member, number, disposed⟩ := took
  refine ⟨sent, key, wire, List.mem_append_right newer member, number, ?_⟩
  intro toUs port
  obtain ⟨later, effect, older, same, before, takes⟩ := disposed toUs port
  exact ⟨newer ++ later, effect, older, by rw [same, List.append_assoc], before, takes⟩

theorem Node.Accounted.built {node : Node cfg} (holds : node.Accounted codec t) {n : UInt32} {packet : Packet}
    {key wire : Octets} (member : ⟨n, .built packet key wire⟩ ∈ node.log) :
    packet.from_ = n ∧ n ≠ 0 ∧ FrameOf codec t packet key wire := by
  obtain ⟨newer, older, -, from_, nonzero, framed, -⟩ := History.lawful_mem holds.lawful member
  exact ⟨from_, nonzero, framed⟩

theorem Node.Accounted.decoded {node : Node cfg} (holds : node.Accounted codec t) (lawful : codec.Lawful)
    (keyed : t.KeyedByHash) (table : node.table = t) (heard : request.Heard codec t node.log)
    (plain : request.plain node.nodeId = true) {packet : Packet} (decoded : node.Decoded codec request packet) :
    TookUp node.nodeId packet.from_ packet.id node.log ∧ packet.from_ ≠ 0 ∧
    ∃ sent key wire, ⟨packet.from_, .built sent key wire⟩ ∈ node.log ∧ packet.id = sent.id ∧
      packet.to_ = sent.to_ ∧ packet.data = sent.data ∧ sent.portnum ≠ PORT_UNKNOWN := by
  cases decoded with
  | message asked =>
    subst asked
    contradiction
  | frame asked decodes seen =>
    obtain ⟨other, sent, key, wire, member, framed⟩ := heard _ _ _ _ asked
    obtain ⟨source, nonzero, -⟩ := holds.built member
    unfold Node.tryDecode at decodes
    rw [table] at decodes
    obtain ⟨found, flag, same, from_, to_, id, opened, -⟩ := tryDecodeWirePacket_frameOf lawful keyed framed decodes
    cases same
    obtain ⟨data, port⟩ := opened rfl
    have src : packet.from_ = other := from_.trans source
    have present : packet.from_ ≠ 0 := src ▸ nonzero
    simp only [Node.dupCheck, decide_eq_true_eq] at seen
    obtain ⟨i, cached⟩ := seen
    refine ⟨?_, present, sent, key, wire, src ▸ member, id, to_, data, port⟩
    have took := holds.seen i (fun zero => present (congrArg Prod.fst (cached.symm.trans zero)))
    rw [cached] at took
    exact took

theorem Node.Accounted.kept {node next : Node cfg} (holds : node.Accounted codec t)
    (change : Node.Change codec board request node next) (nodeId : next.nodeId = node.nodeId) {newer : List Record}
    (log : next.log = newer ++ node.log) (lawful : History.Lawful (MayFollow codec t) next.log)
    (seen : ∀ i, next.dupCache i = node.dupCache i ∨
      TookUp next.nodeId (next.dupCache i).1 (next.dupCache i).2 next.log) : next.Accounted codec t where
  lawful := lawful
  seen := by
    intro i used
    rcases seen i with same | took
    · rw [same] at used ⊢
      rw [nodeId, log]
      exact (holds.seen i used).older newer
    · exact took
  pending := by
    intro i waits
    rw [nodeId, log]
    rcases change.entry_cases waits with ⟨id, dest, portnum, wire⟩ |
      ⟨packet, key, wire, now, rand, made, -, trackable, stored⟩
    · obtain ⟨sent, key, member, number, to_, port, asks⟩ := holds.pending i (id ▸ waits)
      rw [id, dest, portnum, wire]
      exact ⟨sent, key, List.mem_append_right newer member, number, to_, port, asks⟩
    · rw [stored]
      refine ⟨packet, key, List.mem_append_right newer made, rfl, rfl, rfl, ?_⟩
      simp only [reliableTrackable, Bool.and_eq_true, decide_eq_true_eq] at trackable
      exact trackable.1.1.1.1.2

/-! ## Building -/

theorem Node.Origin.source {node drawn : Node cfg} {packet : Packet} {given : UInt32} (id : UInt32)
    (origin : node.Origin codec request packet given) (plain : request.plain node.nodeId = true)
    (same : drawn.nodeId = node.nodeId) : (drawn.fillPacket packet id).from_ = node.nodeId := by
  have named : packet.from_ = 0 ∨ packet.from_ = node.nodeId := by
    cases origin with
    | send asked =>
      subst asked
      simp only [Request.plain, plainMessage, Bool.and_eq_true, Bool.or_eq_true, beq_iff_eq] at plain
      exact plain.2
    | phone asked payload =>
      subst asked
      simp only [Request.plain, payload, plainMessage, Bool.and_eq_true, Bool.or_eq_true, beq_iff_eq] at plain
      exact plain.2
    | inject asked payload onward hops =>
      subst asked
      contradiction
    | ack heard toUs foreign => exact Or.inr rfl
    | module unsent port => exact Or.inl unsent.1
  simp only [Node.fillPacket]
  split_ifs with zero
  · exact same
  · exact named.resolve_left zero

theorem Node.Origin.routing {node : Node cfg} {packet : Packet} {given : UInt32}
    (origin : node.Origin codec request packet given) (plain : request.plain node.nodeId = true)
    (port : packet.portnum = PORT_ROUTING) :
    ∃ req, node.Decoded codec request req ∧ req.to_ = node.nodeId ∧
      packet.to_ = (if req.from_ ≠ 0 then req.from_ else NODE_BROADCAST) ∧ packet.requestId = req.id := by
  cases origin with
  | send asked =>
    subst asked
    simp [Request.plain, plainMessage, port] at plain
  | @phone mesh answer data asked payload =>
    subst asked
    have routing : data.portnum = PORT_ROUTING := port
    simp [Request.plain, payload, plainMessage, routing] at plain
  | inject asked payload onward hops =>
    subst asked
    contradiction
  | ack heard toUs foreign => exact ⟨_, heard, toUs, rfl, rfl⟩
  | module unsent other => exact False.elim (other port)

theorem Node.Accounted.build {node drawn : Node cfg} (holds : node.Accounted codec t) (lawful : codec.Lawful)
    (keyed : t.KeyedByHash) (table : node.table = t) (heard : request.Heard codec t node.log)
    (plain : request.plain node.nodeId = true) (nonzero : node.nodeId ≠ 0) {packet : Packet} {key wire : Octets}
    (builds : node.Builds codec request packet key wire drawn) :
    MayFollow codec t ⟨node.nodeId, .built packet key wire⟩ node.log := by
  obtain ⟨asked, given, id, nodedb, origin, -, draws, filled, chosen, made⟩ := builds
  obtain ⟨nextPktId, allocated, same⟩ := node.drawId_node given
  rw [draws] at same
  simp only at same
  have nodeId : drawn.nodeId = node.nodeId := by rw [same]
  have channels : drawn.table = t := by
    rw [same]
    exact table
  rw [channels] at made chosen
  refine ⟨filled ▸ origin.source id plain nodeId, nonzero, chosen ▸ buildWirePacket_wireKey made, ?_⟩
  intro port
  have routing : asked.portnum = PORT_ROUTING := by
    rw [filled] at port
    exact port
  obtain ⟨req, decoded, toUs, to_, request⟩ := origin.routing plain routing
  obtain ⟨took, present, sent, key', wire', member, number, dest, -, named⟩ :=
    holds.decoded lawful keyed table heard plain decoded
  rw [if_pos present] at to_
  have answerTo : packet.to_ = req.from_ := by
    rw [filled]
    exact to_
  have answerId : packet.requestId = req.id := by
    rw [filled]
    exact request
  refine ⟨?_, sent, key', wire', ?_, ?_, ?_, named⟩
  · rw [answerTo, answerId]
    exact took
  · rw [answerTo]
    exact member
  · rw [answerId]
    exact number.symm
  · exact dest.symm.trans toUs

/-! ## Handing over, settling and taking up -/

theorem Node.Accounted.hand {node : Node cfg} (holds : node.Accounted codec t)
    (heard : request.Heard codec t node.log) (plain : request.plain node.nodeId = true) {wire : Octets}
    (source : node.Handable request wire) : MayFollow codec t ⟨node.nodeId, .handed wire⟩ node.log := by
  cases source with
  | built made => exact ⟨_, _, _, _, made, (holds.built made).2.2⟩
  | relayed asked parsed foreign same =>
    obtain ⟨other, sent, key, wire', member, framed⟩ := heard _ _ _ _ asked
    exact ⟨other, sent, key, wire', member, same ▸ framed.relay _ _⟩
  | encrypted payload asked =>
    rcases asked with ⟨answer, asked⟩ | ⟨around, asked⟩
    · subst asked
      simp [Request.plain, payload] at plain
    · subst asked
      contradiction
  | pending waits same =>
    obtain ⟨sent, key, member, -⟩ := holds.pending _ waits
    exact ⟨_, sent, key, _, member, same ▸ (holds.built member).2.2⟩

theorem Node.Accounted.settle {node : Node cfg} (holds : node.Accounted codec t) (lawful : codec.Lawful)
    (keyed : t.KeyedByHash) (table : node.table = t) (heard : request.Heard codec t node.log)
    (plain : request.plain node.nodeId = true) {packet : Packet} (decoded : node.Decoded codec request packet) :
    History.Lawful (MayFollow codec t) (node.settle codec packet).log := by
  rcases node.settle_log codec packet with same | ⟨i, report, found, outcome, same⟩
  · rw [same]
    exact holds.lawful
  · rw [same]
    refine ⟨?_, holds.lawful⟩
    obtain ⟨port, toUs, requested, matched⟩ := reliableRoutingSlot_eq_some found
    obtain ⟨sent, key, member, number, to_, portnum, asks⟩ := holds.pending i (matched ▸ requested)
    obtain ⟨-, -, answer, key', wire', built, -, dest, data, -⟩ := holds.decoded lawful keyed table heard plain decoded
    have routing : answer.portnum = PORT_ROUTING := (congrArg Data.portnum data).symm.trans port
    have answers : answer.requestId = packet.requestId := (congrArg Data.requestId data).symm
    have acknowledged : Acknowledged node.nodeId (reliableEmitPacket node.nodeId report.outcome) node.log := by
      rw [outcome]
      refine ⟨⟨sent, key, _, member, number, to_, portnum, asks⟩, _, answer, key', wire', built, routing, ?_, ?_⟩
      · exact dest.symm.trans toUs
      · exact answers.trans matched.symm
    unfold MayFollow
    cases report.type with
    | txAcked => exact acknowledged
    | _ => trivial

theorem Node.dispose_takes (node : Node cfg) {nodedb : NodeDbGet} {packet sent : Packet} {decoded : Bool}
    (from_ : packet.from_ = sent.from_) (to_ : packet.to_ = sent.to_) (id : packet.id = sent.id)
    (opened : decoded = true → packet.data = sent.data)
    (closed : decoded = false → decodeKnownOnly node.rebroadcastMode nodedb sent.from_ = false)
    (toUs : sent.to_ = node.nodeId) :
    ∃ newer effect, (node.dispose nodedb packet decoded).log = newer ++ ⟨node.nodeId, effect⟩ :: node.log ∧
      Takes sent effect := by
  cases decoded with
  | false =>
    obtain ⟨mode, stranger⟩ := decodeKnownOnly_eq_false.mp (closed rfl)
    refine ⟨[], _, rfl, ?_⟩
    rw [from_, mode, stranger]
    exact .unknown from_ id
  | true =>
    have data := opened rfl
    have arrived : Arrived sent packet :=
      ⟨from_, to_, id, congrArg Data.portnum data, congrArg Data.payload data⟩
    unfold dispose
    rw [if_pos rfl]
    unfold filterAndDeliver
    by_cases filtered : node.rebroadcastMode = .corePortnumsOnly ∧ isCorePort packet.portnum = false
    · rw [if_pos filtered]
      rw [filtered.1]
      exact ⟨[], _, rfl, .dropped arrived (arrived.portnum ▸ filtered.2)⟩
    · have ours : packetIsToUs node.nodeId packet = true := by
        simp [packetIsToUs, to_, toUs]
      rw [if_neg filtered, if_pos ours]
      exact ⟨[_], _, rfl, .delivered arrived⟩

theorem Node.dispose_lawful (node : Node cfg) (nodedb : NodeDbGet) (packet : Packet) (decoded : Bool)
    (lawful : History.Lawful (MayFollow codec t) node.log) :
    History.Lawful (MayFollow codec t) (node.dispose nodedb packet decoded).log := by
  unfold dispose filterAndDeliver deliverPacket
  split_ifs
  · exact ⟨trivial, lawful⟩
  · exact ⟨trivial, trivial, lawful⟩
  · exact lawful
  · exact ⟨trivial, lawful⟩

theorem Node.accepted_cache (node : Node cfg) (src id : UInt32) (nodedb : NodeDbGet) (packet : Packet) (decoded : Bool)
    (i : Fin cfg.dupCacheSize) :
    ((node.dupAdd src id).dispose nodedb packet decoded).dupCache i = node.dupCache i ∨
      ((node.dupAdd src id).dispose nodedb packet decoded).dupCache i = (src, id) := by
  obtain ⟨newer, same⟩ := (node.dupAdd src id).dispose_noted nodedb packet decoded
  rw [same]
  show Function.update node.dupCache node.dupHead (src, id) i = node.dupCache i ∨
    Function.update node.dupCache node.dupHead (src, id) i = (src, id)
  by_cases head : i = node.dupHead
  · rw [head, Function.update_self]
    exact Or.inr rfl
  · exact Or.inl (Function.update_of_ne head _ _)

theorem mayFollow_quiet {effect : Effect} (quiet : effect.quiet = true) {node : UInt32} (older : List Record) :
    MayFollow codec t ⟨node, effect⟩ older := by
  cases effect with
  | event type err emitted =>
    unfold MayFollow
    cases type with
    | txAcked => contradiction
    | _ => trivial
  | mqttOnTx => trivial
  | mqttOnRx => trivial
  | _ => contradiction

theorem Node.Accounted.accept {node : Node cfg} (holds : node.Accounted codec t) (lawful : codec.Lawful)
    (keyed : t.KeyedByHash) (table : node.table = t) (heard : request.Heard codec t node.log) {frame enc : Octets}
    {rssi snr : Int} {around : Surroundings} {hdr : WireHeader} {packet : Packet} {decoded : Bool}
    (asked : request = .receive frame rssi snr around) (parsed : readHeader frame = some (hdr, enc))
    (decodes : node.tryDecode codec around.nodedb frame rssi snr = some (.ok (packet, decoded))) :
    TookUp node.nodeId hdr.src hdr.id ((node.dupAdd hdr.src hdr.id).dispose around.nodedb packet decoded).log := by
  obtain ⟨other, sent, key, wire, member, framed⟩ := heard _ _ _ _ asked
  obtain ⟨hdr', enc', parsed', src, number, -⟩ := framed.header
  rw [parsed] at parsed'
  cases parsed'
  unfold Node.tryDecode at decodes
  rw [table] at decodes
  obtain ⟨_, _, same, from_, to_, id, opened, closed⟩ := tryDecodeWirePacket_frameOf lawful keyed framed decodes
  cases same
  have source : hdr.src = other := src.trans (holds.built member).1
  obtain ⟨newer, grown⟩ := ((node.dupAdd hdr.src hdr.id).dispose_noted around.nodedb packet decoded).log
  refine ⟨sent, key, wire, ?_, number.symm, ?_⟩
  · rw [grown, source]
    exact List.mem_append_right newer member
  · intro toUs port
    obtain ⟨later, effect, recorded, takes⟩ := (node.dupAdd hdr.src hdr.id).dispose_takes from_ to_ id
      (fun flag => (opened flag).1) (fun flag => (closed flag).resolve_right port) toUs
    exact ⟨later, effect, _, recorded, source ▸ member, takes⟩

/-! ## Changes and steps -/

theorem Node.Accounted.change {node next : Node cfg} (holds : node.Accounted codec t) (lawful : codec.Lawful)
    (keyed : t.KeyedByHash) (table : node.table = t) (heard : request.Heard codec t node.log)
    (plain : request.plain node.nodeId = true) (nonzero : node.nodeId ≠ 0) (running : request.isAdmin = false)
    (change : Node.Change codec board request node next) : next.Accounted codec t := by
  obtain ⟨newer, log⟩ := change.log_grows
  have nodeId : next.nodeId = node.nodeId := by
    rcases change.identity with ⟨same, -⟩ | ⟨config, boot, ret, asked, -⟩
    · exact same
    · subst asked
      contradiction
  have kept := holds.kept change nodeId log
  cases change with
  | draw =>
    obtain ⟨nextPktId, allocated, same⟩ := node.drawId_node 0
    rw [node.allocatePacketId_eq] at same
    refine kept ?_ ?_
    · rw [same]
      exact holds.lawful
    · rw [same]
      exact fun _ => Or.inl rfl
  | @build drawn packet given id nodedb wire origin ready draws made =>
    obtain ⟨nextPktId, allocated, same⟩ := node.drawId_node given
    rw [draws] at same
    simp only at same
    have law := holds.build lawful keyed table heard plain nonzero
      ⟨_, _, _, _, origin, ready, draws, rfl, rfl, made⟩
    refine kept ?_ ?_
    · subst same
      exact ⟨law, holds.lawful⟩
    · rw [same]
      exact fun _ => Or.inl rfl
  | hand source => exact kept ⟨holds.hand heard plain source, holds.lawful⟩ (fun _ => Or.inl rfl)
  | track answer made ready => exact kept holds.lawful (fun _ => Or.inl rfl)
  | settle decoded foreign =>
    apply kept (holds.settle lawful keyed table heard plain decoded)
    obtain ⟨entries, newer', same⟩ := node.settle_noted codec _
    rw [same]
    exact fun _ => Or.inl rfl
  | @accept frame enc rssi snr around hdr packet decoded asked parsed decodes =>
    have took := holds.accept lawful keyed table heard asked parsed decodes
    apply kept ((node.dupAdd hdr.src hdr.id).dispose_lawful around.nodedb packet decoded holds.lawful)
    intro i
    rw [nodeId]
    rcases node.accepted_cache hdr.src hdr.id around.nodedb packet decoded i with same | cached
    · exact Or.inl same
    · rw [cached]
      exact Or.inr took
  | garbled asked parsed fails =>
    obtain ⟨other, sent, key, wire, member, framed⟩ := heard _ _ _ _ asked
    unfold Node.tryDecode at fails
    rw [table] at fails
    obtain ⟨_, _, same, -⟩ := tryDecodeWirePacket_frameOf lawful keyed framed fails
    contradiction
  | injectSeen asked =>
    subst asked
    contradiction
  | injectDeliver packet asked =>
    subst asked
    contradiction
  | @note effect quiet =>
    exact kept ⟨mayFollow_quiet quiet node.log, holds.lawful⟩ (fun _ => Or.inl rfl)
  | work now rand => exact kept holds.lawful (fun _ => Or.inl rfl)
  | init asked done =>
    subst asked
    contradiction
  | configure asked =>
    subst asked
    contradiction

theorem Request.Heard.older {log : List Record} (heard : request.Heard codec t log) (newer : List Record) :
    request.Heard codec t (newer ++ log) := by
  intro frame rssi snr around asked
  obtain ⟨other, sent, key, wire, member, framed⟩ := heard frame rssi snr around asked
  exact ⟨other, sent, key, wire, List.mem_append_right newer member, framed⟩

theorem Node.Accounted.init {node next : Node cfg} {config : NodeConfig} {boot : Boot} {ret : Option Errno}
    (holds : node.Accounted codec t) (done : meshtasticInit board node config boot = some (ret, next))
    (nodeId : next.nodeId = node.nodeId) : next.Accounted codec t := by
  have lawful : History.Lawful (MayFollow codec t) next.log := by
    rw [meshtasticInit_log done]
    exact holds.lawful
  rcases meshtasticInit_cases done with same | ⟨stored, err, -, same⟩ |
    ⟨stored, table, hopLimit, positive, -, same | same⟩
  · exact same ▸ holds
  · subst same
    have named : stored = node.nodeId := nodeId
    subst named
    exact holds
  · subst same
    exact ⟨lawful, fun _ used => False.elim (used rfl), fun _ waits => False.elim (waits rfl)⟩
  · subst same
    exact ⟨lawful, fun _ used => False.elim (used rfl), fun _ waits => False.elim (waits rfl)⟩

theorem Node.Accounted.step {node next : Node cfg} (holds : node.Accounted codec t) (lawful : codec.Lawful)
    (keyed : t.KeyedByHash) (table : node.table = t) (heard : request.Heard codec t node.log)
    (plain : request.plain node.nodeId = true) (nonzero : node.nodeId ≠ 0)
    (taken : node.step codec board request = some next) (nodeId : next.nodeId = node.nodeId) :
    next.Accounted codec t ∧ ∃ newer, next.log = newer ++ node.log := by
  by_cases running : request.isAdmin = false
  · have invariant := Transition.chain_invariant
      (fun at_ => (at_.Accounted codec t ∧ ∃ newer, at_.log = newer ++ node.log) ∧
        at_.nodeId = node.nodeId ∧ at_.table = t) ?_ (Node.step_chain taken) ⟨⟨holds, [], rfl⟩, rfl, table⟩
    · exact invariant.1
    · intro at_ after change here
      obtain ⟨⟨accounted, newer, log⟩, same, channels⟩ := here
      obtain ⟨more, grown⟩ := change.log_grows
      have hears : request.Heard codec t at_.log := log ▸ heard.older newer
      have kept := accounted.change lawful keyed channels hears (same ▸ plain) (same ▸ nonzero) running change
      refine ⟨⟨kept, more ++ newer, by rw [grown, log, List.append_assoc]⟩, ?_⟩
      rcases change.identity with ⟨id, -, stays | ⟨settings, asked⟩⟩ | ⟨config, boot, ret, asked, -⟩
      · exact ⟨id.trans same, stays.trans channels⟩
      · subst asked
        contradiction
      · subst asked
        contradiction
  · cases request with
    | init config boot =>
      obtain ⟨⟨ret, after⟩, done, same⟩ := Option.map_eq_some_iff.mp taken
      cases same
      exact ⟨holds.init done nodeId, [], meshtasticInit_log done⟩
    | configure settings =>
      cases taken
      exact ⟨⟨holds.lawful, holds.seen, holds.pending⟩, [], rfl⟩
    | _ => exact False.elim (running rfl)

end

/-! ## The network -/

section
variable {cfg : Kconfig} {Name : Type} {codec : Codec}

/-- Every node of the mesh is accounted for. -/
def Mesh.Accounted (mesh : Mesh Name) (codec : Codec) (net : Network cfg Name) : Prop :=
  mesh.Holds net ∧ ∀ who, (net.node who).Accounted codec mesh.table

theorem Mesh.Starts.accounted {mesh : Mesh Name} {net : Network cfg Name} (starts : mesh.Starts net) :
    mesh.Accounted codec net := by
  refine ⟨starts.holds, fun who => ⟨?_, ?_, ?_⟩⟩
  · show History.Lawful (MayFollow codec mesh.table) net.log
    rw [starts.log]
    trivial
  · intro i used
    exact False.elim (used (starts.unheard who i))
  · intro i waits
    exact False.elim (waits (starts.untracked who i))

/-- What is audible was handed over, so it is a frame of a packet that was built. -/
theorem Mesh.Accounted.heard {mesh : Mesh Name} {net : Network cfg Name} (holds : mesh.Accounted codec net)
    {call : Call cfg Name} (hears : net.hears call = true) : call.request.Heard codec mesh.table net.log := by
  intro frame rssi snr around asked
  unfold Network.hears at hears
  rw [asked] at hears
  simp only [audible, List.any_eq_true, Bool.and_eq_true, beq_iff_eq] at hears
  obtain ⟨⟨node, effect⟩, member, -, handed⟩ := hears
  subst handed
  obtain ⟨newer, older, same, other, sent, key, wire, built, framed⟩ :=
    History.lawful_mem (holds.2 call.who).lawful member
  have log : net.log = newer ++ ⟨node, .handed frame⟩ :: older := same
  refine ⟨other, sent, key, wire, ?_, framed⟩
  rw [log]
  exact List.mem_append_right newer (List.mem_cons_of_mem _ built)

theorem Node.Accounted.idle {node : Node cfg} {t : ChannelTable} (holds : node.Accounted codec t)
    {newer : List Record} (lawful : History.Lawful (MayFollow codec t) (newer ++ node.log)) :
    ({ node with log := newer ++ node.log } : Node cfg).Accounted codec t where
  lawful := lawful
  seen := fun i used => (holds.seen i used).older newer
  pending := by
    intro i waits
    obtain ⟨sent, key, member, facts⟩ := holds.pending i waits
    exact ⟨sent, key, List.mem_append_right newer member, facts⟩

variable [DecidableEq Name] {boards : Name → Board}

theorem Mesh.Holds.step {mesh : Mesh Name} {net next : Network cfg Name} {call : Call cfg Name}
    (holds : mesh.Holds net) (allowed : mesh.Allows codec boards net call)
    (taken : net.step codec boards call = some next) : mesh.Holds next := by
  by_cases running : call.request.isAdmin = false
  · unfold Network.step at taken
    split_ifs at taken
    obtain ⟨node, moved, same⟩ := Option.map_eq_some_iff.mp taken
    obtain ⟨nodeId, table⟩ := Node.step_identity running moved
    intro who
    subst same
    by_cases acting : who = call.who
    · subst acting
      simp only [Function.update_self]
      exact ⟨nodeId.trans (holds call.who).1, table.trans (holds call.who).2⟩
    · simp only [Function.update_of_ne acting]
      exact holds who
  · exact allowed.2 (by simpa using running) next taken

theorem Mesh.Accounted.step {mesh : Mesh Name} (lawful : codec.Lawful) {net next : Network cfg Name}
    {call : Call cfg Name} (holds : mesh.Accounted codec net) (allowed : mesh.Allows codec boards net call)
    (taken : net.step codec boards call = some next) : mesh.Accounted codec next := by
  have stays := holds.1.step allowed taken
  unfold Network.step at taken
  by_cases deaf : net.hears call = false
  · rw [if_pos deaf] at taken
    contradiction
  rw [if_neg deaf] at taken
  obtain ⟨node, moved, same⟩ := Option.map_eq_some_iff.mp taken
  obtain ⟨id, table⟩ := holds.1 call.who
  have nodeId : node.nodeId = mesh.ids call.who := by
    have after := (stays call.who).1
    rw [← same] at after
    simpa using after
  obtain ⟨accounted, newer, log⟩ := (holds.2 call.who).step lawful mesh.keyed table
    (holds.heard (by simpa using deaf)) (id ▸ allowed.1) (id ▸ mesh.nonzero call.who) moved (nodeId.trans id.symm)
  refine ⟨stays, fun who => ?_⟩
  subst same
  by_cases acting : who = call.who
  · subst acting
    show (Node.mk _ _ _ _ _ _ _ _ _ _ _ _ : Node cfg).Accounted codec mesh.table
    simp only [Function.update_self]
    exact accounted
  · have others : ({ nodes := Function.update net.nodes call.who node, log := node.log } : Network cfg Name).node who =
        { net.node who with log := newer ++ (net.node who).log } := by
      unfold Network.node
      simp only [Function.update_of_ne acting]
      rw [log]
      rfl
    rw [others]
    apply (holds.2 who).idle
    have lawfulLog := accounted.lawful
    rw [log] at lawfulLog
    exact lawfulLog

/-- Behind every TX_ACKED of a packet to `b` there is a moment after the send at which `b` took that
packet as new: it delivered it, or withheld it under CORE_PORTNUMS_ONLY or KNOWN_ONLY. -/
theorem acked_was_taken_up (cfg : Kconfig) (codec : Codec) (lawful : codec.Lawful) (boards : Name → Board)
    (mesh : Mesh Name) (start last : Network cfg Name) (calls : List (Call cfg Name)) (starts : mesh.Starts start)
    (allowed : Transition.Guarded (Network.step codec boards) (mesh.Allows codec boards) start calls)
    (whole : Transition.run (Network.step codec boards) start calls = some last) (a b : Name)
    (fresh : OnePacketPerId (mesh.ids a) last.log) :
    ∀ newer older err acked, last.log = newer ++ ⟨mesh.ids a, .event .txAcked err acked⟩ :: older →
      acked.to_ = mesh.ids b →
      ∃ sent key wire, sent.id = acked.id ∧ sent.to_ = mesh.ids b ∧ sent.portnum = acked.portnum ∧
        sent.wantAck = true ∧ ∃ later effect before, older = later ++ ⟨mesh.ids b, effect⟩ :: before ∧
          ⟨mesh.ids a, .built sent key wire⟩ ∈ before ∧ Takes sent effect := by
  have holds : mesh.Accounted codec last :=
    Transition.run_invariant (fun _ _ _ before permitted taken => before.step lawful permitted taken)
      (starts.accounted) allowed whole
  intro newer older err acked log toPeer
  have history : History.Lawful (MayFollow codec mesh.table) last.log := (holds.2 a).lawful
  rw [log] at history
  obtain ⟨⟨sent, key, wire, member, number, to_, portnum, asks⟩, other, answer, key', wire', answered, port, toUs,
    requested⟩ := History.lawful_at history
  -- the acknowledgement, and what its author had done by then
  obtain ⟨between, past, same, -, -, -, answers⟩ := History.lawful_mem (History.lawful_older history).2 answered
  obtain ⟨took, req, key₂, wire₂, member₂, number₂, dest, named⟩ := answers port
  obtain ⟨taken, key₃, wire₃, member₃, number₃, disposed⟩ := took
  have author : answer.to_ = mesh.ids a := toUs
  rw [author] at member₂ member₃
  rw [requested] at number₂ number₃
  have inLog : ∀ {record : Record}, record ∈ past → record ∈ last.log := by
    intro record here
    rw [log, same]
    simp [here]
  have known : ⟨mesh.ids a, .built sent key wire⟩ ∈ last.log := by
    rw [log]
    simp [member]
  -- one packet per id: the three packets are the one that was sent
  have first : req = sent :=
    fresh _ (mem_builtBy (inLog member₂)) _ (mem_builtBy known) (number₂.trans number.symm)
  have second : taken = sent :=
    fresh _ (mem_builtBy (inLog member₃)) _ (mem_builtBy known) (number₃.trans number.symm)
  subst first
  subst second
  have peer : other = mesh.ids b := (dest.symm.trans to_).trans toPeer
  obtain ⟨later, effect, before, split, built, takes⟩ := disposed dest named
  refine ⟨taken, key₃, wire₃, number, to_.trans toPeer, portnum, asks,
    between ++ ⟨other, .built answer key' wire'⟩ :: later, effect, before, ?_, author ▸ built, takes⟩
  rw [same, split, peer]
  simp

end

/-! ## Two nodes -/

inductive Peer where
  | a
  | b
  deriving DecidableEq

def pairMesh : Mesh Peer where
  ids := fun who => if who = .a then 0x11 else 0x22
  table := plainTable
  distinct := by
    intro first second same
    cases first <;> cases second <;> first | rfl | exact absurd same (by decide)
  nonzero := by
    intro who
    cases who <;> decide
  keyed := by decide

def pairNetwork (mode : RebroadcastMode) : Network smallKconfig Peer :=
  { nodes := fun who =>
      { Node.powerOn smallKconfig plainTable with
        nodeId := pairMesh.ids who
        hopLimit := 3
        nextPktId := 1
        initialized := true
        rebroadcastMode := if who = .b then mode else .all }
    log := [] }

def privatePacket : Packet :=
  { to_ := 0x22, portnum := PORT_PRIVATE, payload := [0x68, 0x69], wantAck := true }

def privateFrame : Octets :=
  [0x22, 0, 0, 0, 0x11, 0, 0, 0, 1, 0, 0, 0, 0x6b, 0x08, 0, 0, 0x08, 0x80, 0x02, 0x12, 0x02, 0x68, 0x69]

def privateAnswer : Octets :=
  [0x11, 0, 0, 0, 0x22, 0, 0, 0, 1, 0, 0, 0, 0x42, 0x08, 0, 0, 0x08, 0x05, 0x12, 0x02, 0x18, 0, 0x35, 1, 0, 0, 0]

def privateCalls : List (Call smallKconfig Peer) :=
  [⟨.a, .send privatePacket .forever plainAnswer⟩, ⟨.b, .receive privateFrame (-90) 6 plainAround⟩,
    ⟨.a, .receive privateAnswer (-90) 6 plainAround⟩]

theorem acked_was_taken_up_private :
    ∃ last older err acked, Transition.run (Network.step (dataCodec fun _ _ _ => 0) (fun _ => plainBoard))
        (pairNetwork .all) privateCalls = some last ∧
      last.log = ⟨pairMesh.ids .a, .event .txAcked err acked⟩ :: older ∧
      ∃ sent key wire, sent.id = acked.id ∧ sent.to_ = pairMesh.ids .b ∧ sent.portnum = acked.portnum ∧
        sent.wantAck = true ∧ ∃ later effect before, older = later ++ ⟨pairMesh.ids .b, effect⟩ :: before ∧
          ⟨pairMesh.ids .a, .built sent key wire⟩ ∈ before ∧ Takes sent effect := by
  have starts : pairMesh.Starts (pairNetwork .all) :=
    ⟨fun _ => ⟨rfl, rfl⟩, rfl, fun _ _ => rfl, fun _ _ => rfl⟩
  have allowed : Transition.Guarded (Network.step (dataCodec fun _ _ _ => 0) (fun _ => plainBoard))
      (pairMesh.Allows (dataCodec fun _ _ _ => 0) (fun _ => plainBoard)) (pairNetwork .all) privateCalls := by
    refine Transition.guarded_of_forall ?_ _
    intro net call member
    have plain : ∀ call ∈ privateCalls, call.request.plain (pairMesh.ids call.who) = true ∧
        call.request.isAdmin = false := by decide
    refine ⟨(plain call member).1, fun admin => ?_⟩
    rw [(plain call member).2] at admin
    contradiction
  refine ⟨_, _, _, _, rfl, rfl, ?_⟩
  exact acked_was_taken_up smallKconfig (dataCodec fun _ _ _ => 0) (dataCodec_lawful _) (fun _ => plainBoard) pairMesh
    (pairNetwork .all) _ privateCalls starts allowed rfl .a .b (by unfold OnePacketPerId; decide) [] _ _ _ rfl rfl

def deliveredBy (nodeId : UInt32) (log : List Record) : List Packet :=
  log.filterMap fun record =>
    match record.effect with
    | .delivered packet => if record.node = nodeId then some packet else none
    | _ => none

/-- The calls end with a TX_ACKED for the last packet node 0x11 has built, one to node 0x22 with this
payload, and node 0x22 has delivered no such payload. -/
def AckedUndelivered (mode : RebroadcastMode) (calls : List (Call smallKconfig Peer)) (payload : Octets) : Prop :=
  ∃ last older err acked, Transition.run (Network.step (dataCodec fun _ _ _ => 0) (fun _ => plainBoard))
      (pairNetwork mode) calls = some last ∧
    last.log = ⟨pairMesh.ids .a, .event .txAcked err acked⟩ :: older ∧ acked.to_ = pairMesh.ids .b ∧
    (builtBy (pairMesh.ids .a) last.log).head?.map (fun sent => (sent.id, sent.payload, sent.wantAck)) =
      some (acked.id, payload, true) ∧
    payload ∉ (deliveredBy (pairMesh.ids .b) last.log).map Packet.payload

def knownLaterCalls : List (Call smallKconfig Peer) :=
  [⟨.a, .send privatePacket .forever plainAnswer⟩, ⟨.b, .receive privateFrame (-90) 6 plainAround⟩,
    ⟨.b, .receive privateFrame (-90) 6 { plainAround with nodedb := fun _ => some 0 }⟩,
    ⟨.a, .receive privateAnswer (-90) 6 plainAround⟩]

def writtenCalls : List (Call smallKconfig Peer) :=
  [⟨.a, .send privatePacket .forever plainAnswer⟩,
    ⟨.b, .send { to_ := 0x11, portnum := PORT_ROUTING, payload := [0x18, 0], requestId := 1 } .forever plainAnswer⟩,
    ⟨.a, .receive
      [0x11, 0, 0, 0, 0x22, 0, 0, 0, 1, 0, 0, 0, 0x63, 0x08, 0, 0, 0x08, 0x05, 0x12, 0x02, 0x18, 0, 0x35, 1, 0, 0, 0]
      (-90) 6 plainAround⟩]

def restartCalls : List (Call smallKconfig Peer) :=
  [⟨.a, .send privatePacket .forever plainAnswer⟩, ⟨.b, .receive privateFrame (-90) 6 plainAround⟩,
    ⟨.a, .init plainNodeConfig plainBoot⟩,
    ⟨.a, .send { privatePacket with payload := [0x6e, 0x6f] } .forever plainAnswer⟩,
    ⟨.b, .receive
      [0x22, 0, 0, 0, 0x11, 0, 0, 0, 1, 0, 0, 0, 0x6b, 0x08, 0, 0, 0x08, 0x80, 0x02, 0x12, 0x02, 0x6e, 0x6f]
      (-90) 6 plainAround⟩,
    ⟨.a, .receive
      [0x11, 0, 0, 0, 0x22, 0, 0, 0, 2, 0, 0, 0, 0x42, 0x08, 0, 0, 0x08, 0x05, 0x12, 0x02, 0x18, 0, 0x35, 1, 0, 0, 0]
      (-90) 6 plainAround⟩]

/-- Acknowledged and not delivered: in CORE_PORTNUMS_ONLY, in KNOWN_ONLY, by an application's own ROUTING
packet, and after a restart. -/
theorem acked_without_delivery :
    AckedUndelivered .corePortnumsOnly privateCalls [0x68, 0x69] ∧
    AckedUndelivered .knownOnly knownLaterCalls [0x68, 0x69] ∧
    AckedUndelivered .all writtenCalls [0x68, 0x69] ∧
    AckedUndelivered .all restartCalls [0x6e, 0x6f] :=
  ⟨⟨_, _, _, _, rfl, rfl, rfl, rfl, by decide⟩, ⟨_, _, _, _, rfl, rfl, rfl, rfl, by decide⟩,
    ⟨_, _, _, _, rfl, rfl, rfl, rfl, by decide⟩, ⟨_, _, _, _, rfl, rfl, rfl, rfl, by decide⟩⟩

end Meshtastic
