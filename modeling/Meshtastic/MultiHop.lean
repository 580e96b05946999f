import Meshtastic.AckChains
import Meshtastic.MqttBridge
import Meshtastic.NetworkAck
import Meshtastic.RelayLimit
import Meshtastic.RelayPolicy

/-! How far a packet travels. Along a path of nodes that relay, each hearing the one before it, a packet comes as many
nodes far as its source has given it hops, and the node behind them delivers the packet of the source. -/

namespace Meshtastic
open Bytes

/-! ## Calls that return -/

section
variable {cfg : Kconfig} (codec : Codec) {node : Node cfg}

theorem buildWirePacket_returns {t : ChannelTable} (terminates : t.Terminates) (nodedb : NodeDbGet)
    (packet : Packet) : ∃ result, buildWirePacket codec t nodedb packet = some result := by
  unfold buildWirePacket
  cases encodePacketData codec packet with
  | error err => exact ⟨_, rfl⟩
  | ok encoded =>
    simp only
    split
    next lookup => exact absurd lookup (terminates _)
    next => exact ⟨_, rfl⟩
    next =>
      split
      · exact ⟨_, rfl⟩
      · exact ⟨_, rfl⟩

theorem Node.drawId_table (node : Node cfg) (given : UInt32) : (node.drawId given).2.table = node.table := by
  obtain ⟨nextPktId, allocated, same⟩ := node.drawId_node given
  rw [same]

theorem sendPacketPrepare_returns (terminates : node.table.Terminates) (nodedb : NodeDbGet) (packet : Packet) :
    ∃ result, sendPacketPrepare codec nodedb node packet = some result := by
  unfold sendPacketPrepare
  split_ifs
  · exact ⟨_, rfl⟩
  · exact ⟨_, rfl⟩
  · obtain ⟨result, built⟩ := buildWirePacket_returns codec (node.drawId_table packet.id ▸ terminates) nodedb
      ((node.drawId packet.id).2.fillPacket packet (node.drawId packet.id).1)
    simp only [built]
    cases result with
    | error err => exact ⟨_, rfl⟩
    | ok wire => exact ⟨_, rfl⟩

theorem sendPacket_returns (terminates : node.table.Terminates) (answer : Answer) (packet : Packet) (wait : Wait) :
    ∃ ret next, sendPacket codec answer node packet wait = some (ret, next) := by
  obtain ⟨⟨outcome, after⟩, made⟩ := sendPacketPrepare_returns codec terminates answer.nodedb packet
  unfold sendPacket
  rw [made]
  cases outcome with
  | error err => exact ⟨_, _, rfl⟩
  | ok pair =>
    simp only
    split
    · exact ⟨_, _, rfl⟩
    · exact ⟨_, _, rfl⟩

theorem sendMeshPb_returns (terminates : node.table.Terminates) (answer : Answer) (mesh : MeshPacket) :
    ∃ ret next, sendMeshPb codec answer node mesh = some (ret, next) := by
  unfold sendMeshPb
  cases mesh.payload with
  | decoded data => exact sendPacket_returns codec terminates answer _ _
  | encrypted enc => exact ⟨_, _, rfl⟩
  | unset enc => exact ⟨_, _, rfl⟩

theorem routingSendAck_returns (terminates : node.table.Terminates) (answer : Answer) (req : Packet) :
    ∃ ret next, routingSendAck codec answer node req = some (ret, next) := by
  have drew : node.allocatePacketId.2.table.Terminates := by
    rw [← node.allocatePacketId_eq, node.drawId_table]
    exact terminates
  unfold routingSendAck
  by_cases toUs : req.to_ = node.nodeId
  · rw [if_neg (not_not.mpr toUs)]
    simp only
    split_ifs
    · exact ⟨_, _, rfl⟩
    · exact sendMeshPb_returns codec drew answer _
  · exact ⟨_, _, if_pos toUs⟩

theorem routingOnDecoded_returns (terminates : node.table.Terminates) (answer : Answer) (packet : Packet) :
    ∃ next, routingOnDecoded codec answer node packet = some next := by
  have kept : node.Emits (node.AckEffect codec packet) (node.settle codec packet) := node.emits_settle packet
  have settled : (node.settle codec packet).table.Terminates := kept.table ▸ terminates
  unfold routingOnDecoded
  by_cases other : packetIsToUs node.nodeId packet = false ∨ packet.from_ = node.nodeId
  · exact ⟨node, if_pos other⟩
  rw [if_neg other]
  by_cases asked : packet.wantAck = true ∧ packet.to_ = (node.settle codec packet).nodeId
  · obtain ⟨ret, next, acked⟩ := routingSendAck_returns codec settled answer packet
    refine ⟨next, ?_⟩
    simp only [if_pos asked, acked, Option.map_some]
  · exact ⟨_, if_neg asked⟩

theorem sendProbes_returns (probes : List (ModulePacket × Answer)) (terminates : node.table.Terminates) :
    ∃ next, sendProbes codec node probes = some next ∧ next.table.Terminates := by
  induction probes generalizing node with
  | nil => exact ⟨node, rfl, terminates⟩
  | cons probe rest ih =>
    obtain ⟨made, answer⟩ := probe
    obtain ⟨ret, after, sent⟩ := sendPacket_returns codec terminates answer made.packet .noWait
    unfold sendProbes
    rw [sent]
    exact ih ((sendPacket_emits sent).table ▸ terminates)

theorem dispatchModules_returns (terminates : node.table.Terminates) (modules : Modules) (packet : Packet) :
    ∃ next, dispatchModules codec modules node packet = some next := by
  obtain ⟨after, probed, still⟩ := sendProbes_returns codec modules.probes terminates
  unfold dispatchModules
  simp only [probed]
  split_ifs
  · exact ⟨_, rfl⟩
  · cases modules.reply with
    | none => exact ⟨_, rfl⟩
    | some made =>
      obtain ⟨ret, next, sent⟩ := sendPacket_returns codec still made.2 (packetSetReplyTo made.1.packet packet) .noWait
      exact ⟨next, by simp only [sent, Option.map_some]⟩

theorem handleDecoded_returns (terminates : node.table.Terminates) (around : Surroundings) (packet : Packet)
    (wire : Option Octets) : ∃ next, handleDecoded codec around node packet wire = some next := by
  have told : (node.mqttOnRx packet wire).table.Terminates := by
    unfold Node.mqttOnRx
    split_ifs
    · exact terminates
    · exact terminates
  obtain ⟨after, routed⟩ := routingOnDecoded_returns codec told around.ack packet
  have still : after.table.Terminates := (routingOnDecoded_acks routed).table ▸ told
  unfold handleDecoded
  rw [routed]
  exact dispatchModules_returns codec still around.modules packet

theorem Node.tryDecode_returns (terminates : node.table.Terminates) (nodedb : NodeDbGet) (frame : Octets)
    (rssi snr : Int) : ∃ result, node.tryDecode codec nodedb frame rssi snr = some result := by
  unfold tryDecode tryDecodeWirePacket
  cases readHeader frame with
  | none => exact ⟨_, rfl⟩
  | some parsed =>
    simp only
    split_ifs
    · exact ⟨_, rfl⟩
    · obtain ⟨result, searched⟩ : ∃ result, tryDecryptWireHash codec node.table parsed.1.channel
          (fillPacketFromHeader parsed.1 rssi snr).from_ (fillPacketFromHeader parsed.1 rssi snr).id parsed.2 = some result :=
        tryDecryptSlots_isSome terminates _
      rw [searched]
      cases result with
      | error err => exact ⟨_, rfl⟩
      | ok found =>
        simp only
        split_ifs
        · exact ⟨_, rfl⟩
        · exact ⟨_, rfl⟩

theorem processLoraRx_returns (terminates : node.table.Terminates) (around : Surroundings) (frame : Octets)
    (rssi snr : Int) : ∃ next, processLoraRx codec around node frame rssi snr = some next := by
  obtain ⟨result, decodes⟩ := node.tryDecode_returns codec terminates around.nodedb frame rssi snr
  unfold processLoraRx
  cases readHeader frame with
  | none => exact ⟨_, rfl⟩
  | some parsed =>
    simp only
    split_ifs
    · exact ⟨_, rfl⟩
    · unfold reackDuplicate
      split_ifs
      · exact ⟨_, rfl⟩
      · rw [decodes]
        split
        next same => cases same
        next packet same => exact routingOnDecoded_returns codec terminates around.ack packet
        next => exact ⟨_, rfl⟩
    · rw [(node.alike_dupAdd parsed.1.src parsed.1.id).tryDecode, decodes]
      cases result with
      | error err => exact ⟨_, rfl⟩
      | ok found =>
        obtain ⟨packet, decoded⟩ := found
        unfold handleInboundFrame
        cases decoded with
        | false => exact ⟨_, rfl⟩
        | true =>
          have kept : (node.dupAdd parsed.1.src parsed.1.id).Emits (fun _ => True)
              (filterAndDeliver (node.dupAdd parsed.1.src parsed.1.id) packet) :=
            filterAndDeliver_emits_of _ packet trivial trivial trivial
          have delivered : (filterAndDeliver (node.dupAdd parsed.1.src parsed.1.id) packet).table.Terminates :=
            kept.table ▸ terminates
          obtain ⟨after, handled⟩ := handleDecoded_returns codec delivered around packet (some frame)
          simp only [if_true, handled]
          exact ⟨_, rfl⟩

end

/-! ## Paths -/

/-- A node on a path, how well it hears the one before it, and what it meets. -/
structure Hop (Name : Type) where
  who : Name
  rssi : Int
  snr : Int
  around : Surroundings

/-- The flight of what the node relays of a flight. -/
def Flight.onward (heard : Flight) (relayer : UInt32) : Flight :=
  match readHeader heard.frame with
  | some (hdr, _) => .relayed (relayFrame heard.frame hdr.flags (flagsHopLimit hdr.flags)) relayer heard
  | none => heard

def Flight.along {Name : Type} (ids : Name → UInt32) (flight : Flight) (path : List (Hop Name)) : Flight :=
  path.foldl (fun heard hop => heard.onward (ids hop.who)) flight

/-- Each node of the path hears what the one before it relays. -/
def passAlong (cfg : Kconfig) {Name : Type} (ids : Name → UInt32) : Flight → List (Hop Name) → List (Move cfg Name)
  | _, [] => []
  | flight, hop :: rest =>
    .hear hop.who flight hop.rssi hop.snr hop.around :: passAlong cfg ids (flight.onward (ids hop.who)) rest

theorem flagsViaMqtt_of_mask {flags other : UInt8}
    (same : flags &&& ~~~FLAGS_HOP_LIMIT_MASK = other &&& ~~~FLAGS_HOP_LIMIT_MASK) :
    flagsViaMqtt flags = flagsViaMqtt other := by
  have outside : ~~~FLAGS_HOP_LIMIT_MASK &&& FLAGS_VIA_MQTT = FLAGS_VIA_MQTT := by decide
  unfold flagsViaMqtt
  rw [← outside, ← UInt8.and_assoc, same, UInt8.and_assoc]

def WireHeader.onward (hdr : WireHeader) : WireHeader := { hdr with flags := relayFlags hdr.flags (flagsHopLimit hdr.flags) }

section
variable {cfg : Kconfig} {Name : Type}

/-- A node that relays a packet with this header, if it hears it. -/
structure Flood.Willing (flood : Flood cfg Name) (hdr : WireHeader) (hop : Hop Name) : Prop where
  terminates : (flood.nodes hop.who).table.Terminates
  fresh : (flood.nodes hop.who).dupCheck hdr.src hdr.id = false
  forwards : isRebroadcaster (flood.nodes hop.who).deviceRole (flood.nodes hop.who).rebroadcastMode = true
  notLocal : (flood.nodes hop.who).rebroadcastMode ≠ .localOnly
  src : hdr.src ≠ (flood.nodes hop.who).nodeId
  dest : hdr.dest ≠ (flood.nodes hop.who).nodeId
  queued : ∃ result, hop.around.relay.radio = .queued result

/-- A node that takes the packet, hears it, and can open and deliver it. -/
structure Flood.Receptive (flood : Flood cfg Name) (sent : Packet) (hop : Hop Name) : Prop where
  terminates : (flood.nodes hop.who).table.Terminates
  keyed : (flood.nodes hop.who).table.KeyedByHash
  fresh : (flood.nodes hop.who).dupCheck sent.from_ sent.id = false
  admits : decodeKnownOnly (flood.nodes hop.who).rebroadcastMode hop.around.nodedb sent.from_ = true
  ours : packetIsToUs (flood.nodes hop.who).nodeId sent = true
  port : (flood.nodes hop.who).rebroadcastMode = .corePortnumsOnly → isCorePort sent.portnum = true

/-- A packet that some build relays at all. -/
structure Passable (cfg : Kconfig) (hdr : WireHeader) : Prop where
  heeded : ignoredFromMqtt cfg hdr = false
  named : unnamedBroadcast hdr = false

variable {codec : Codec} {hdr : WireHeader} {flight : Flight} {enc : Octets}

theorem Flight.onward_eq (parsed : readHeader flight.frame = some (hdr, enc)) (relayer : UInt32) :
    flight.onward relayer = .relayed (relayFrame flight.frame hdr.flags (flagsHopLimit hdr.flags)) relayer flight := by
  unfold onward
  rw [parsed]

theorem Flight.onward_header (parsed : readHeader flight.frame = some (hdr, enc)) (relayer : UInt32) :
    readHeader (flight.onward relayer).frame = some (hdr.onward, enc) := by
  rw [Flight.onward_eq parsed]
  exact readHeader_set_flags _ parsed

theorem Flight.onward_length (flight : Flight) (relayer : UInt32) :
    (flight.onward relayer).frame.length = flight.frame.length := by
  unfold onward
  split
  · exact List.length_set
  · rfl

theorem FrameOf.onward {t : ChannelTable} {sent : Packet} {key : Octets}
    (framed : FrameOf codec t sent key flight.frame) (relayer : UInt32) :
    FrameOf codec t sent key (flight.onward relayer).frame := by
  unfold Flight.onward
  split
  · exact framed.relay _ _
  · exact framed

theorem Passable.onward (passable : Passable cfg hdr) (hops : flagsHopLimit hdr.flags ≠ 0) : Passable cfg hdr.onward where
  heeded := by
    have same : flagsViaMqtt hdr.onward.flags = flagsViaMqtt hdr.flags := flagsViaMqtt_of_mask (relayFlags_spec hops).1
    rw [ignoredFromMqtt, same]
    exact passable.heeded
  named := passable.named

theorem Flood.Willing.onward {flood passed : Flood cfg Name} {hop : Hop Name} (willing : flood.Willing hdr hop)
    (same : passed.nodes hop.who = flood.nodes hop.who) : passed.Willing hdr.onward hop where
  terminates := same ▸ willing.terminates
  fresh := same ▸ willing.fresh
  forwards := same ▸ willing.forwards
  notLocal := same ▸ willing.notLocal
  src := same ▸ willing.src
  dest := same ▸ willing.dest
  queued := willing.queued

theorem FrameOf.along {t : ChannelTable} {sent : Packet} {key : Octets} (ids : Name → UInt32)
    (framed : FrameOf codec t sent key flight.frame) (path : List (Hop Name)) :
    FrameOf codec t sent key (flight.along ids path).frame := by
  induction path generalizing flight with
  | nil => exact framed
  | cons hop rest ih => exact ih (framed.onward (ids hop.who))

theorem tryDecodeWirePacket_hops {t : ChannelTable} {mode : RebroadcastMode} {nodedb : NodeDbGet} {frame : Octets}
    {rssi snr : Int} {payloadLen : Nat} {packet : Packet} {decoded : Bool} (parsed : readHeader frame = some (hdr, enc))
    (decodes : tryDecodeWirePacket codec t mode nodedb frame rssi snr payloadLen = some (.ok (packet, decoded))) :
    packet.hopLimit = flagsHopLimit hdr.flags := by
  rcases tryDecodeWirePacket_cases parsed decodes with ⟨passed, -⟩ | ⟨data, ch, -, -, ⟨-, heard⟩ | ⟨-, failed⟩⟩
  · cases passed
    rfl
  · cases heard
    rfl
  · contradiction

theorem passAlong_append (ids : Name → UInt32) (flight : Flight) (path : List (Hop Name)) (goal : Hop Name) :
    passAlong cfg ids flight (path ++ [goal]) =
      passAlong cfg ids flight path ++ [.hear goal.who (flight.along ids path) goal.rssi goal.snr goal.around] := by
  induction path generalizing flight with
  | nil => rfl
  | cons hop rest ih =>
    simp only [List.cons_append, passAlong, ih]
    rfl

theorem filterAndDeliver_delivers {node : Node cfg} {packet : Packet} (ours : packetIsToUs node.nodeId packet = true)
    (port : node.rebroadcastMode = .corePortnumsOnly → isCorePort packet.portnum = true) :
    ⟨node.nodeId, .delivered packet⟩ ∈ (filterAndDeliver node packet).log := by
  have core : ¬(node.rebroadcastMode = .corePortnumsOnly ∧ isCorePort packet.portnum = false) := by
    rintro ⟨mode, other⟩
    rw [port mode] at other
    contradiction
  rw [filterAndDeliver, if_neg core, if_pos ours]
  exact List.mem_cons_of_mem _ List.mem_cons_self

theorem mem_log_routingSniffRebroadcast {node : Node cfg} {record : Record} (member : record ∈ node.log)
    (radio : RadioAnswer) (frame : Octets) (packet : Packet) :
    record ∈ (routingSniffRebroadcast radio node hdr frame packet).log := by
  rw [routingSniffRebroadcast_rebroadcasts]
  split
  · exact List.mem_cons_of_mem _ member
  · exact member

/-- A node delivers the packet of a frame that is new to it and that it can open. -/
theorem processLoraRx_delivers (lawful : codec.Lawful) {node next : Node cfg} {sent : Packet} {key frame : Octets}
    {rssi snr : Int} {around : Surroundings} (keyed : node.table.KeyedByHash)
    (parsed : readHeader frame = some (hdr, enc)) (framed : FrameOf codec node.table sent key frame)
    (heeded : ignoredFromMqtt cfg hdr = false) (fresh : node.dupCheck sent.from_ sent.id = false)
    (admits : decodeKnownOnly node.rebroadcastMode around.nodedb sent.from_ = true)
    (ours : packetIsToUs node.nodeId sent = true) (named : sent.portnum ≠ PORT_UNKNOWN)
    (port : node.rebroadcastMode = .corePortnumsOnly → isCorePort sent.portnum = true)
    (done : processLoraRx codec around node frame rssi snr = some next) :
    ∃ packet, ⟨node.nodeId, .delivered packet⟩ ∈ next.log ∧ Arrived sent packet ∧
      packet.hopLimit = flagsHopLimit hdr.flags := by
  obtain ⟨hdr', enc', same, src, id, dest⟩ := framed.header
  rw [parsed] at same
  cases same
  have decoding : ∀ {result : Except Errno (Packet × Bool)},
      node.tryDecode codec around.nodedb frame rssi snr = some result →
      ∃ packet, result = .ok (packet, true) ∧ Arrived sent packet ∧ packet.hopLimit = flagsHopLimit hdr.flags := by
    intro result decodes
    obtain ⟨packet, decoded, outcome, from_, to_, number, opened, closed⟩ :=
      tryDecodeWirePacket_frameOf lawful keyed framed decodes
    cases decoded with
    | false =>
      rcases closed rfl with stranger | unknown
      · rw [admits] at stranger
        contradiction
      · exact absurd unknown named
    | true =>
      obtain ⟨data, -⟩ := opened rfl
      subst outcome
      exact ⟨packet, rfl, ⟨from_, to_, number, congrArg Data.portnum data, congrArg Data.payload data⟩,
        tryDecodeWirePacket_hops parsed decodes⟩
  have notIgnored : ¬(cfg.mqttIgnoreMqtt = true ∧ flagsViaMqtt hdr.flags = true) := by
    simpa [ignoredFromMqtt] using heeded
  cases processLoraRx_cases done with
  | short short =>
    rw [parsed] at short
    contradiction
  | ignored parsed' ignored =>
    rw [parsed] at parsed'
    cases parsed'
    exact absurd ignored notIgnored
  | duplicate parsed' _ seen =>
    rw [parsed] at parsed'
    cases parsed'
    rw [src, id, fresh] at seen
    contradiction
  | reacked parsed' _ seen =>
    rw [parsed] at parsed'
    cases parsed'
    rw [src, id, fresh] at seen
    contradiction
  | garbled parsed' _ _ fails =>
    obtain ⟨packet, outcome, -⟩ := decoding fails
    cases outcome
  | undecoded parsed' _ _ decodes =>
    obtain ⟨packet, outcome, -⟩ := decoding decodes
    cases outcome
  | @decoded hdr' enc' packet after parsed' _ _ decodes handled =>
    obtain ⟨packet', outcome, arrived, hops⟩ := decoding decodes
    cases outcome
    refine ⟨packet, ?_, arrived, hops⟩
    have toUs : packetIsToUs (node.dupAdd hdr'.src hdr'.id).nodeId packet = true := by
      unfold packetIsToUs at ours ⊢
      rw [arrived.to_]
      exact ours
    have delivered : ⟨node.nodeId, .delivered packet⟩ ∈
        ((node.dupAdd hdr'.src hdr'.id).dispose around.nodedb packet true).log :=
      filterAndDeliver_delivers toUs (fun mode => arrived.portnum.symm ▸ port mode)
    obtain ⟨effects, log, -⟩ := (handleDecoded_emits handled).log
    apply mem_log_routingSniffRebroadcast
    rw [log]
    exact List.mem_append_right _ delivered

variable [DecidableEq Name] {flood : Flood cfg Name} {hop : Hop Name}

theorem Flood.step_willing (bounded : codec.Bounded) (boards : Name → Board) (heard : flight ∈ flood.air)
    (parsed : readHeader flight.frame = some (hdr, enc)) (short : flight.frame.length ≤ PKT_MAX)
    (passable : Passable cfg hdr) (hops : flagsHopLimit hdr.flags ≠ 0) (willing : flood.Willing hdr hop) :
    ∃ passed, flood.step codec boards (.hear hop.who flight hop.rssi hop.snr hop.around) = some passed ∧
      flight.onward (flood.nodes hop.who).nodeId ∈ passed.air ∧
      ∀ who, who ≠ hop.who → passed.nodes who = flood.nodes who := by
  have terminates : (flood.nodes hop.who).cleared.table.Terminates := willing.terminates
  obtain ⟨next, done⟩ := processLoraRx_returns codec terminates hop.around flight.frame hop.rssi hop.snr
  have taken : (flood.nodes hop.who).cleared.step codec (boards hop.who)
      (.receive flight.frame hop.rssi hop.snr hop.around) = some next := done
  obtain ⟨result, queued⟩ := willing.queued
  have relayed := relays_iff bounded taken parsed short willing.fresh willing.src willing.dest hops queued
  rw [if_pos ⟨passable.heeded, passable.named, willing.forwards, willing.notLocal⟩] at relayed
  obtain ⟨rest, -, emitted⟩ := (flood.nodes hop.who).cleared.emissions_relayed codec next
    (.receive flight.frame hop.rssi hop.snr hop.around) flight .sent (fun _ => rfl)
  rw [relayed] at emitted
  refine ⟨_, by simp only [Flood.step, if_pos heard, Flood.call, taken, Option.map_some]; rfl, ?_, ?_⟩
  · simp only [emitted, Flight.onward_eq parsed]
    exact List.mem_append_left _ List.mem_cons_self
  · intro who other
    exact Function.update_of_ne other _ _

/-- A packet comes as far along a path of willing nodes as it has hops, and nobody else notices. -/
theorem Flood.passAlong_run (bounded : codec.Bounded) (boards : Name → Board) (ids : Name → UInt32)
    (path : List (Hop Name)) (distinct : (path.map Hop.who).Nodup)
    (named : ∀ hop ∈ path, (flood.nodes hop.who).nodeId = ids hop.who)
    (willing : ∀ hop ∈ path, flood.Willing hdr hop) (heard : flight ∈ flood.air)
    (parsed : readHeader flight.frame = some (hdr, enc)) (short : flight.frame.length ≤ PKT_MAX)
    (passable : Passable cfg hdr) (hops : path.length ≤ (flagsHopLimit hdr.flags).toNat) :
    ∃ last hdr', Transition.run (Flood.step codec boards) flood (passAlong cfg ids flight path) = some last ∧
      flight.along ids path ∈ last.air ∧ (∀ who ∉ path.map Hop.who, last.nodes who = flood.nodes who) ∧
      readHeader (flight.along ids path).frame = some (hdr', enc) ∧ Passable cfg hdr' ∧
      (flagsHopLimit hdr'.flags).toNat + path.length = (flagsHopLimit hdr.flags).toNat := by
  induction path generalizing flood flight hdr with
  | nil => exact ⟨flood, hdr, rfl, heard, fun _ _ => rfl, parsed, passable, rfl⟩
  | cons hop rest ih =>
    rw [List.map_cons, List.nodup_cons] at distinct
    rw [List.length_cons] at hops
    have more : flagsHopLimit hdr.flags ≠ 0 := by
      intro none
      rw [none] at hops
      exact absurd hops (Nat.not_succ_le_zero _)
    have lower : (flagsHopLimit hdr.onward.flags).toNat + 1 = (flagsHopLimit hdr.flags).toNat := (relayFlags_spec more).2
    obtain ⟨passed, stepped, onAir, others⟩ := Flood.step_willing bounded boards heard parsed short passable more
      (willing hop List.mem_cons_self)
    rw [named hop List.mem_cons_self] at onAir
    have apart : ∀ later ∈ rest, passed.nodes later.who = flood.nodes later.who := by
      intro later member
      apply others
      intro same
      exact distinct.1 (same ▸ List.mem_map_of_mem member)
    have stillNamed : ∀ later ∈ rest, (passed.nodes later.who).nodeId = ids later.who := by
      intro later member
      rw [apart later member]
      exact named later (List.mem_cons_of_mem hop member)
    have stillWilling : ∀ later ∈ rest, passed.Willing hdr.onward later := by
      intro later member
      exact (willing later (List.mem_cons_of_mem hop member)).onward (apart later member)
    obtain ⟨last, hdr', run, arrived, quiet, header, stays, count⟩ := ih distinct.2 stillNamed stillWilling onAir
      (Flight.onward_header parsed _) ((flight.onward_length _).symm ▸ short) (passable.onward more) (by omega)
    refine ⟨last, hdr', Transition.run_cons_eq_some.mpr ⟨passed, stepped, run⟩, arrived, ?_, header, stays, ?_⟩
    · intro who outside
      rw [List.map_cons, List.mem_cons, not_or] at outside
      rw [quiet who outside.2]
      exact others who outside.1
    · rw [List.length_cons]
      omega

theorem Flood.step_receptive (lawful : codec.Lawful) (boards : Name → Board) {sent : Packet} {key : Octets}
    (heard : flight ∈ flood.air) (parsed : readHeader flight.frame = some (hdr, enc))
    (framed : FrameOf codec (flood.nodes hop.who).table sent key flight.frame) (passable : Passable cfg hdr)
    (named : sent.portnum ≠ PORT_UNKNOWN) (receptive : flood.Receptive sent hop) :
    ∃ passed packet, flood.step codec boards (.hear hop.who flight hop.rssi hop.snr hop.around) = some passed ∧
      ⟨(flood.nodes hop.who).nodeId, .delivered packet⟩ ∈ (passed.nodes hop.who).log ∧ Arrived sent packet ∧
      packet.hopLimit = flagsHopLimit hdr.flags := by
  have terminates : (flood.nodes hop.who).cleared.table.Terminates := receptive.terminates
  obtain ⟨next, done⟩ := processLoraRx_returns codec terminates hop.around flight.frame hop.rssi hop.snr
  have taken : (flood.nodes hop.who).cleared.step codec (boards hop.who)
      (.receive flight.frame hop.rssi hop.snr hop.around) = some next := done
  have keyed : (flood.nodes hop.who).cleared.table.KeyedByHash := receptive.keyed
  obtain ⟨packet, delivered, arrived, hops⟩ := processLoraRx_delivers lawful keyed parsed framed passable.heeded
    receptive.fresh receptive.admits receptive.ours named receptive.port done
  refine ⟨_, packet, by simp only [Flood.step, if_pos heard, Flood.call, taken, Option.map_some]; rfl, ?_, arrived, hops⟩
  simp only [Function.update_self]
  exact delivered

/-- A packet that is on the air reaches every node behind a path of nodes that relay it, unless the path is longer than
the packet has hops: each of them may hear it in turn, and the node behind them delivers what was sent, with as many
hops fewer as it has passed nodes. -/
theorem packet_travels (codec : Codec) (lawful : codec.Lawful) (bounded : codec.Bounded) (boards : Name → Board)
    (flood : Flood cfg Name) (flight : Flight) (heard : flight ∈ flood.air) (hdr : WireHeader) (enc : Octets)
    (parsed : readHeader flight.frame = some (hdr, enc)) (short : flight.frame.length ≤ PKT_MAX)
    (passable : Passable cfg hdr) (path : List (Hop Name)) (hops : path.length ≤ (flagsHopLimit hdr.flags).toNat)
    (willing : ∀ hop ∈ path, flood.Willing hdr hop) (goal : Hop Name) (distinct : ((path ++ [goal]).map Hop.who).Nodup)
    (sent : Packet) (key : Octets) (framed : FrameOf codec (flood.nodes goal.who).table sent key flight.frame)
    (named : sent.portnum ≠ PORT_UNKNOWN) (receptive : flood.Receptive sent goal) :
    let ids := fun who => (flood.nodes who).nodeId
    ∃ last packet, Transition.run (Flood.step codec boards) flood (passAlong cfg ids flight (path ++ [goal])) = some last ∧
      ⟨ids goal.who, .delivered packet⟩ ∈ (last.nodes goal.who).log ∧ Arrived sent packet ∧
      packet.hopLimit.toNat + path.length = (flagsHopLimit hdr.flags).toNat := by
  intro ids
  rw [List.map_append, List.map_cons, List.map_nil, List.nodup_append] at distinct
  obtain ⟨first, -, apart⟩ := distinct
  have behind : goal.who ∉ path.map Hop.who := fun member => apart _ member _ List.mem_cons_self rfl
  obtain ⟨middle, hdr', run, arrived, quiet, header, stays, count⟩ := Flood.passAlong_run bounded boards ids path first
    (fun _ _ => rfl) willing heard parsed short passable hops
  have same : middle.nodes goal.who = flood.nodes goal.who := quiet goal.who behind
  have ready : middle.Receptive sent goal :=
    { terminates := same ▸ receptive.terminates
      keyed := same ▸ receptive.keyed
      fresh := same ▸ receptive.fresh
      admits := same ▸ receptive.admits
      ours := same ▸ receptive.ours
      port := same ▸ receptive.port }
  obtain ⟨last, packet, stepped, delivered, whole, left⟩ := Flood.step_receptive lawful boards arrived header
    (same ▸ framed.along ids path) stays named ready
  refine ⟨last, packet, ?_, ?_, whole, ?_⟩
  · rw [passAlong_append]
    exact Transition.run_append_eq_some.mpr ⟨middle, run, Transition.run_cons_eq_some.mpr ⟨last, stepped, rfl⟩⟩
  · rw [same] at delivered
    exact delivered
  · rw [left]
    exact count

end

/-! ## Values for examples -/

def corridor : Flood smallKconfig Bool :=
  { nodes := fun far =>
      { Node.powerOn smallKconfig plainTable with nodeId := if far then 0x33 else 0x22, initialized := true }
    air := [.sent passingText] }

def corridorText : Packet :=
  { from_ := 0x11, to_ := 0x33, id := 1, portnum := PORT_TEXT_MESSAGE, payload := [0x68, 0x69] }

def corridorHop (far : Bool) : Hop Bool := { who := far, rssi := -90, snr := 6, around := plainAround }

theorem corridorText_framed : FrameOf (dataCodec fun _ _ _ => 0) plainTable corridorText defaultPsk passingText :=
  ⟨0, 0x63, rfl, by decide, by decide, by decide, rfl⟩

theorem corridor_willing : corridor.Willing
    { dest := 0x33, src := 0x11, id := 1, flags := 0x63, channel := 0x08, nextHop := 0, relayNode := 0 }
    (corridorHop false) where
  terminates := by decide
  fresh := by decide
  forwards := rfl
  notLocal := by decide
  src := by decide
  dest := by decide
  queued := ⟨none, rfl⟩

theorem corridor_receptive : corridor.Receptive corridorText (corridorHop true) where
  terminates := by decide
  keyed := pairMesh.keyed
  fresh := by decide
  admits := rfl
  ours := rfl
  port := fun mode => by cases mode

theorem packet_travels_corridor :
    ∃ last packet, Transition.run (Flood.step (dataCodec fun _ _ _ => 0) fun _ => plainBoard) corridor
        (passAlong smallKconfig (fun who => (corridor.nodes who).nodeId) (.sent passingText)
          ([corridorHop false] ++ [corridorHop true])) = some last ∧
      ⟨0x33, .delivered packet⟩ ∈ (last.nodes true).log ∧ Arrived corridorText packet ∧
      packet.hopLimit.toNat + 1 = 3 :=
  packet_travels (dataCodec fun _ _ _ => 0) (dataCodec_lawful _) (dataCodec_bounded _) (fun _ => plainBoard) corridor
    (.sent passingText) List.mem_cons_self _ _ rfl (by decide) ⟨by decide, by decide⟩ [corridorHop false] (by decide)
    (fun hop member => List.mem_singleton.mp member ▸ corridor_willing) (corridorHop true) (by decide) corridorText
    defaultPsk corridorText_framed (by decide) corridor_receptive

end Meshtastic
