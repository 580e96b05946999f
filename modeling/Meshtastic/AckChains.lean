import Meshtastic.Flood
import Meshtastic.Frames
import Meshtastic.Mqtt

/-! Acknowledgements of acknowledgements. A direct text message is answered by an acknowledgement
that asks to be acknowledged itself; the answer to that one asks for nothing. -/

namespace Meshtastic
open Bytes

/-- The length of the chain of acknowledgements that ends with what the frame carries: none for what an
application has sent, one more for each answer, whatever its sender has decoded the frame before it as. -/
def Flight.acks : Flight → Nat
  | sent _ => 0
  | answered _ _ _ heard => heard.acks + 1
  | relayed _ _ heard => heard.acks
  | bridged _ heard => heard.acks

/-- What holds of every flight: only frames that ask for an acknowledgement are answered, copies ask for
no more than what they copy, and the answer to a ROUTING packet asks for nothing. -/
def Flight.Restrained : Flight → Prop
  | sent _ => True
  | answered frame ack req heard =>
    (wantsAck frame = ack.wantAck ∧ (req.portnum = PORT_ROUTING → ack.wantAck = false) ∧
      wantsAck heard.frame = true) ∧ heard.Restrained
  | relayed frame _ heard => (wantsAck frame = true → wantsAck heard.frame = true) ∧ heard.Restrained
  | bridged frame heard => (wantsAck frame = true → wantsAck heard.frame = true) ∧ heard.Restrained

/-- The octets are a frame of the packet on a channel of one of the tables. -/
def Carries (codec : Codec) (tables : Set ChannelTable) (packet : Packet) (frame : Octets) : Prop :=
  ∃ t ∈ tables, ∃ key, FrameOf codec t packet key frame

/-- What holds of every flight that has kept to the radio: an answer is a ROUTING packet and so is an answer
that was answered, and copies carry what they copy. -/
def Flight.Understood (codec : Codec) (tables : Set ChannelTable) : Flight → Prop
  | sent _ => True
  | answered frame ack req heard =>
    (ack.portnum = PORT_ROUTING ∧ Carries codec tables ack frame ∧
      (0 < heard.acks → req.portnum = PORT_ROUTING)) ∧ heard.Understood codec tables
  | relayed frame _ heard =>
    (∀ packet, Carries codec tables packet heard.frame → Carries codec tables packet frame) ∧
      heard.Understood codec tables
  | bridged _ _ => False

theorem Flight.Understood.routing {codec : Codec} {tables : Set ChannelTable} {flight : Flight}
    (understood : flight.Understood codec tables) (chained : 0 < flight.acks) :
    ∃ packet, packet.portnum = PORT_ROUTING ∧ Carries codec tables packet flight.frame := by
  induction flight with
  | sent frame => exact absurd chained (Nat.lt_irrefl 0)
  | answered frame ack req heard ih => exact ⟨ack, understood.1.1, understood.1.2.1⟩
  | relayed frame relayer heard ih =>
    obtain ⟨copied, before⟩ := understood
    obtain ⟨packet, port, carried⟩ := ih before chained
    exact ⟨packet, port, copied packet carried⟩
  | bridged frame heard ih => exact False.elim understood

/-- The second acknowledgement of a chain asks for none, so there is no third. -/
theorem Flight.Restrained.acks_le {codec : Codec} {tables : Set ChannelTable} {flight : Flight}
    (restrained : flight.Restrained) (understood : flight.Understood codec tables) :
    flight.acks ≤ 2 ∧ (wantsAck flight.frame = true → flight.acks ≤ 1) := by
  induction flight with
  | sent frame => exact ⟨Nat.zero_le 2, fun _ => Nat.zero_le 1⟩
  | answered frame ack req heard ih =>
    obtain ⟨⟨same, silent, asked⟩, before⟩ := restrained
    obtain ⟨⟨-, -, chained⟩, earlier⟩ := understood
    have one := (ih before earlier).2 asked
    refine ⟨Nat.succ_le_succ one, fun asks => ?_⟩
    by_cases first : heard.acks = 0
    · exact Nat.succ_le_succ (Nat.le_of_eq first)
    · have routing := chained (Nat.pos_of_ne_zero first)
      rw [Flight.frame, same, silent routing] at asks
      contradiction
  | relayed frame relayer heard ih =>
    obtain ⟨copied, before⟩ := restrained
    have kept := ih before understood.2
    exact ⟨kept.1, fun asks => kept.2 (copied asks)⟩
  | bridged frame heard ih => exact False.elim understood

/-! ## Who asks for acknowledgements -/

theorem flagsWantAck_of_mask {flags other : UInt8}
    (same : flags &&& ~~~FLAGS_HOP_LIMIT_MASK = other &&& ~~~FLAGS_HOP_LIMIT_MASK) :
    flagsWantAck flags = flagsWantAck other := by
  have outside : ~~~FLAGS_HOP_LIMIT_MASK &&& FLAGS_WANT_ACK = FLAGS_WANT_ACK := by decide
  unfold flagsWantAck
  rw [← outside, ← UInt8.and_assoc, same, UInt8.and_assoc]

theorem wantsAck_relayFrame {frame enc : Octets} {hdr : WireHeader} (parsed : readHeader frame = some (hdr, enc))
    (hops : flagsHopLimit hdr.flags ≠ 0) :
    wantsAck (relayFrame frame hdr.flags (flagsHopLimit hdr.flags)) = wantsAck frame := by
  unfold wantsAck relayFrame
  rw [readHeader_set_flags _ parsed, parsed]
  exact flagsWantAck_of_mask (relayFlags_spec hops).1

section
variable {cfg : Kconfig} {codec : Codec} {board : Board} {request : Request cfg}

theorem Node.Sending.wantsAck {node : Node cfg} {packet local_ : Packet} {wire : Octets}
    (sending : node.Sending codec packet local_ wire) :
    local_.wantAck = packet.wantAck ∧ Meshtastic.wantsAck wire = packet.wantAck := by
  obtain ⟨id, -, filled⟩ := sending.filled
  obtain ⟨nodedb, made⟩ := sending.made
  have same : local_.wantAck = packet.wantAck := by
    rw [filled]
    rfl
  obtain ⟨-, -, key, -, -, framed⟩ := buildWirePacket_eq_ok made
  refine ⟨same, ?_⟩
  rw [framed, Meshtastic.wantsAck, readHeader_octets]
  exact (flags_roundTrip _ _ _ _).2.2.1.trans same

theorem Node.decodes_wantAck {node : Node cfg} {req : Packet} (decoded : node.decodes codec request = some req) :
    (∀ frame rssi snr around, request = .receive frame rssi snr around → req.wantAck = wantsAck frame) ∧
      ∀ mesh around, request = .inject mesh around → req.wantAck = mesh.wantAck := by
  constructor
  · intro frame rssi snr around asked
    subst asked
    simp only [decodes] at decoded
    split at decoded
    next packet decodes =>
      cases decoded
      cases parsed : readHeader frame with
      | none => simp [tryDecode, tryDecodeWirePacket, parsed] at decodes
      | some pair =>
        obtain ⟨hdr, enc⟩ := pair
        rw [wantsAck, parsed]
        exact (tryDecodeWirePacket_header parsed decodes).2.2.2.1
    next => contradiction
  · intro mesh around asked
    subst asked
    simp only [decodes] at decoded
    split at decoded
    next packet made =>
      cases decoded
      exact (meshPbToPacket_eq_ok made).2.2
    next => contradiction

theorem Node.Effects.ack {node : Node cfg} {ack : Packet} {key frame : Octets} (input : request.isInput = true)
    (fine : node.Effects codec request (.built ack key frame)) (port : ack.portnum = PORT_ROUTING)
    (plain : ack.viaMqtt = false) :
    ∃ req, node.decodes codec request = some req ∧ req.wantAck = true ∧
      ack.wantAck = routingAckShouldRequestAck node.nodeId req ∧ wantsAck frame = ack.wantAck ∧
      ∃ key, FrameOf codec node.table ack key frame := by
  cases fine with
  | send asked fine =>
    subst asked
    contradiction
  | phone asked fine =>
    subst asked
    contradiction
  | inject asked fine =>
    -- the message itself, on its way to LoRa, carries the mark of MQTT
    cases fine with
    | decoded payload fine =>
      cases fine with
      | built sending =>
        obtain ⟨id, -, filled⟩ := sending.filled
        rw [filled] at plain
        contradiction
    | encrypted payload fine => cases fine
  | handle heard fine =>
    cases fine with
    | ack toUs foreign asks fine =>
      cases fine with
      | built sending =>
        obtain ⟨same, wire⟩ := sending.wantsAck
        obtain ⟨nodedb, made⟩ := sending.made
        exact ⟨_, heard, asks, same, wire.trans same.symm, _, buildWirePacket_wireKey made⟩
    | module fine =>
      cases fine with
      | sent unsent other fine =>
        cases fine with
        | built sending =>
          obtain ⟨id, -, filled⟩ := sending.filled
          rw [filled] at port
          exact False.elim (other port)

/-- A message from MQTT leads to no frame that asks for an acknowledgement when it asks for none itself. -/
theorem Node.Effects.bridged {node : Node cfg} {mesh : MeshPacket} {around : Surroundings} {frame : Octets}
    (fine : node.Effects codec (.inject mesh around) (.handed frame)) (asks : wantsAck frame = true) :
    mesh.wantAck = true := by
  cases fine with
  | send asked fine => contradiction
  | phone asked fine => contradiction
  | retry asked waits fits => contradiction
  | inject asked fine =>
    cases asked
    cases fine with
    | decoded payload fine =>
      cases fine with
      | handed sending => exact sending.wantsAck.2.symm.trans asks
    | encrypted payload fine =>
      cases fine with
      | handed id hopLimit hopStart fits =>
        rw [wantsAck, readHeader_octets] at asks
        exact (flags_roundTrip _ _ _ _).2.2.1.symm.trans asks
  | handle heard fine =>
    have same := (Node.decodes_wantAck heard).2 mesh around rfl
    cases fine with
    | ack toUs foreign asked fine => exact same.symm.trans asked
    | module fine =>
      cases fine with
      | sent unsent port fine =>
        cases fine with
        | handed sending =>
          rw [sending.wantsAck.2, unsent.2.2] at asks
          contradiction

/-! ## One acknowledgement for each reception -/

def Effect.isAck : Effect → Bool
  | .built packet _ _ => packet.portnum = PORT_ROUTING
  | _ => false

def ackCount (log : List Record) : Nat := log.countP (fun record => record.effect.isAck)

theorem Node.Emits.ackCount_eq {allowed : Effect → Prop} {node next : Node cfg} (emits : node.Emits allowed next)
    (other : ∀ effect, allowed effect → effect.isAck = false) : ackCount next.log = ackCount node.log := by
  obtain ⟨effects, same, fine⟩ := emits.log
  rw [same, ackCount, List.countP_append, List.countP_map]
  have none : effects.countP ((fun record => record.effect.isAck) ∘ Record.mk node.nodeId) = 0 := by
    rw [List.countP_eq_zero]
    intro effect member
    simpa using other effect (fine effect member)
  rw [none, Nat.zero_add, ackCount]

theorem sendPacket_ackCount {node next : Node cfg} {packet : Packet} {wait : Wait} {answer : Answer}
    {ret : Option Errno} (sent : sendPacket codec answer node packet wait = some (ret, next)) :
    ackCount next.log ≤ ackCount node.log + 1 := by
  rcases sendPacket_stages sent with ⟨-, same | drawn⟩ | ⟨wire, after, -, -, queued, ended⟩
  · rw [same]
    omega
  · rw [drawn, node.drawId_log]
    omega
  · have later : Node.Emits (fun effect => effect.isAck = false) _ next :=
      sendBuilt_emits rfl rfl (fun _ => rfl) queued ended
    rw [later.ackCount_eq (fun _ other => other), ackCount, ackCount, ← node.drawId_log packet.id]
    show List.countP _ (_ :: _) ≤ _
    rw [List.countP_cons]
    split_ifs <;> omega

theorem Node.SendEffect.not_ack {node : Node cfg} {packet : Packet} {announced : Bool} {effect : Effect}
    (fine : node.SendEffect codec packet announced effect) (other : packet.portnum ≠ PORT_ROUTING) :
    effect.isAck = false := by
  cases fine with
  | built sending =>
    obtain ⟨id, -, filled⟩ := sending.filled
    rw [filled]
    exact decide_eq_false other
  | _ => rfl

theorem routingSendAck_ackCount {node next : Node cfg} {req : Packet} {answer : Answer} {ret : Option Errno}
    (sent : routingSendAck codec answer node req = some (ret, next)) : ackCount next.log ≤ ackCount node.log + 1 := by
  have drawn : node.allocatePacketId.2.log = node.log := by
    rw [← node.allocatePacketId_eq, node.drawId_log]
  unfold routingSendAck at sent
  by_cases toUs : req.to_ = node.nodeId
  · rw [if_neg (not_not.mpr toUs)] at sent
    simp only at sent
    split_ifs at sent
    · cases sent
      rw [drawn]
      omega
    · rw [← drawn]
      exact sendPacket_ackCount sent
  · rw [if_pos toUs] at sent
    cases sent
    omega

theorem routingOnDecoded_ackCount {node next : Node cfg} {packet : Packet} {answer : Answer}
    (done : routingOnDecoded codec answer node packet = some next) : ackCount next.log ≤ ackCount node.log + 1 := by
  unfold routingOnDecoded at done
  split_ifs at done with ours
  · cases done
    omega
  have settled : ackCount (node.settle codec packet).log = ackCount node.log := by
    rcases node.settle_log codec packet with same | ⟨i, report, -, -, same⟩
    · rw [same]
    · rw [same]
      rfl
  simp only at done
  split_ifs at done with asked
  · obtain ⟨⟨ret, after⟩, acked, same⟩ := Option.map_eq_some_iff.mp done
    cases same
    rw [← settled]
    exact routingSendAck_ackCount acked
  · cases done
    omega

theorem handleDecoded_ackCount {node next : Node cfg} {packet : Packet} {wire : Option Octets} {around : Surroundings}
    (done : handleDecoded codec around node packet wire = some next) : ackCount next.log ≤ ackCount node.log + 1 := by
  unfold handleDecoded at done
  have hearing : node.Emits (fun effect => effect.isAck = false) (node.mqttOnRx packet wire) := node.emits_mqttOnRx rfl
  cases routed : routingOnDecoded codec around.ack (node.mqttOnRx packet wire) packet with
  | none =>
    rw [routed] at done
    contradiction
  | some after =>
    rw [routed] at done
    have one := routingOnDecoded_ackCount routed
    rw [hearing.ackCount_eq (fun _ other => other)] at one
    have modules : ackCount next.log = ackCount after.log := by
      refine (dispatchModules_emits done).ackCount_eq ?_
      intro effect fine
      cases fine with
      | sent unsent port fine => exact fine.not_ack port
    omega

theorem filterAndDeliver_ackCount (node : Node cfg) (packet : Packet) :
    ackCount (filterAndDeliver node packet).log = ackCount node.log := by
  unfold filterAndDeliver deliverPacket
  split_ifs <;> rfl

theorem routingSniffRebroadcast_ackCount (radio : RadioAnswer) (node : Node cfg) (hdr : WireHeader) (frame : Octets)
    (packet : Packet) : ackCount (routingSniffRebroadcast radio node hdr frame packet).log = ackCount node.log := by
  rw [routingSniffRebroadcast_rebroadcasts]
  split <;> rfl

theorem processLoraRx_ackCount {node next : Node cfg} {frame : Octets} {rssi snr : Int} {around : Surroundings}
    (done : processLoraRx codec around node frame rssi snr = some next) :
    ackCount next.log ≤ ackCount node.log + 1 := by
  cases processLoraRx_cases done with
  | short parsed => omega
  | ignored parsed ignored => omega
  | duplicate parsed heeded seen => omega
  | reacked parsed heeded seen decodes acked => exact routingOnDecoded_ackCount acked
  | garbled parsed heeded fresh fails => exact Nat.le_succ _
  | undecoded parsed heeded fresh decodes =>
    rw [routingSniffRebroadcast_ackCount]
    exact Nat.le_succ _
  | @decoded hdr enc packet after parsed heeded fresh decodes handled =>
    have delivering : ackCount ((node.dupAdd hdr.src hdr.id).dispose around.nodedb packet true).log =
        ackCount node.log := filterAndDeliver_ackCount (node.dupAdd hdr.src hdr.id) packet
    rw [routingSniffRebroadcast_ackCount, ← delivering]
    exact handleDecoded_ackCount handled

/-! ## Pending packets -/

/-- No ROUTING packet waits for an acknowledgement. -/
def Node.TracksNoAck (node : Node cfg) : Prop :=
  ∀ i, (node.entries i).id ≠ 0 → (node.entries i).portnum ≠ PORT_ROUTING

theorem Node.TracksNoAck.change {node next : Node cfg} (tracks : node.TracksNoAck)
    (change : Node.Change codec board request node next) : next.TracksNoAck := by
  intro i waits
  rcases change.entry_cases waits with ⟨id, -, port, -⟩ | ⟨packet, key, wire, now, rand, -, -, trackable, stored⟩
  · rw [port]
    exact tracks i (id ▸ waits)
  · rw [stored]
    show packet.portnum ≠ PORT_ROUTING
    intro routing
    simp [reliableTrackable, routing] at trackable

theorem Node.TracksNoAck.step {node next : Node cfg} (tracks : node.TracksNoAck)
    (taken : node.step codec board request = some next) : next.TracksNoAck := by
  refine Node.step_invariant ?_ (fun _ _ _ _ change holds => holds.change change) tracks taken
  intro config boot ret after _ done holds i waits
  have same := meshtasticInit_pending done waits
  rw [same] at waits ⊢
  exact holds i waits

/-! ## Runs -/

theorem Node.restrained_emissions {node next : Node cfg} {heard flight : Flight} {other : Octets → Flight}
    (clean : node.log = []) (input : request.isInput = true)
    (taken : node.step codec board request = some next) (before : heard.Restrained)
    (asks : ∀ req, node.decodes codec request = some req → req.wantAck = wantsAck heard.frame)
    (relayed : ∀ frame, node.relays codec request = some frame → wantsAck frame = wantsAck heard.frame)
    (fine : ∀ frame, node.Effects codec request (.handed frame) → (other frame).Restrained)
    (member : flight ∈ node.emissions codec request heard other next) : flight.Restrained := by
  have running : request.isAdmin = false := by
    cases request with
    | init config boot => contradiction
    | configure settings => contradiction
    | _ => rfl
  rcases Node.mem_emissions clean running taken member with ⟨frame, sent, same⟩ |
    ⟨frame, ack, req, key, decoded, port, plain, built, -, same⟩ | ⟨frame, handed, same⟩
  · rw [same]
    exact ⟨fun wants => (relayed frame sent).symm.trans wants, before⟩
  · obtain ⟨req', decoded', asked, wants, frameAsks, -⟩ := built.ack input port plain
    rw [decoded] at decoded'
    cases decoded'
    rw [same]
    refine ⟨⟨frameAsks, ?_, (asks req decoded).symm.trans asked⟩, before⟩
    intro routing
    rw [wants]
    simp [routingAckShouldRequestAck, routing, PORT_ROUTING, PORT_TEXT_MESSAGE, PORT_TEXT_MESSAGE_COMPRESSED]
  · rw [same]
    exact fine frame handed

section
variable {Name : Type} [DecidableEq Name] {boards : Name → Board}

structure Flood.Restrained (flood : Flood cfg Name) : Prop where
  flights : ∀ flight ∈ flood.air, flight.Restrained
  tracks : ∀ who, (flood.nodes who).TracksNoAck

theorem Flood.Restrained.step {flood after : Flood cfg Name} {move : Move cfg Name} (restrained : flood.Restrained)
    (taken : flood.step codec boards move = some after) : after.Restrained := by
  have tracks : ∀ who, (flood.nodes who).cleared.TracksNoAck := restrained.tracks
  cases Flood.step_taken taken with
  | @act who request next act done =>
    refine ⟨List.forall_mem_append.mpr ⟨?_, restrained.flights⟩,
      forall_update restrained.tracks ((tracks who).step done)⟩
    intro flight new
    obtain ⟨wire, -, same⟩ := List.mem_map.mp new
    rw [← same]
    trivial
  | @hear who heard rssi snr around next audible done =>
    refine ⟨List.forall_mem_append.mpr ⟨?_, restrained.flights⟩,
      forall_update restrained.tracks ((tracks who).step done)⟩
    intro flight new
    refine Node.restrained_emissions rfl rfl done (restrained.flights heard audible) ?_ ?_ ?_ new
    · intro req decoded
      exact (Node.decodes_wantAck decoded).1 _ _ _ _ rfl
    · intro frame relayed
      obtain ⟨hdr, enc, parsed, -, -, hops, -, same⟩ := Node.relays_eq_some relayed
      rw [same]
      exact wantsAck_relayFrame parsed hops
    · intro frame _
      exact trivial
  | @bridge who heard mesh around next audible asks done =>
    refine ⟨List.forall_mem_append.mpr ⟨?_, restrained.flights⟩,
      forall_update restrained.tracks ((tracks who).step done)⟩
    intro flight new
    have before := restrained.flights heard audible
    refine Node.restrained_emissions rfl rfl done before ?_ ?_ ?_ new
    · intro req decoded
      exact ((Node.decodes_wantAck decoded).2 _ _ rfl).trans asks
    · intro frame relayed
      rw [Node.relays_none (by simp)] at relayed
      contradiction
    · intro frame handed
      exact ⟨fun wants => asks.symm.trans (handed.bridged wants), before⟩

/-! ## Nodes that understand each other -/

/-- Frames come by radio alone, and the node that hears one has one of these tables. -/
def Move.HeardOn (tables : Set ChannelTable) (flood : Flood cfg Name) : Move cfg Name → Prop
  | .act _ _ => True
  | .hear who _ _ _ _ => (flood.nodes who).table ∈ tables
  | .bridge _ _ _ _ => False

theorem Node.understood_emissions {tables : Set ChannelTable} (lawful : codec.Lawful) (together : KeyedTogether tables)
    {node next : Node cfg} {heard flight : Flight} {rssi snr : Int} {around : Surroundings} (clean : node.log = [])
    (table : node.table ∈ tables) (before : heard.Understood codec tables)
    (taken : node.step codec board (.receive heard.frame rssi snr around) = some next)
    (member : flight ∈ node.emissions codec (.receive heard.frame rssi snr around) heard .sent next) :
    flight.Understood codec tables := by
  rcases Node.mem_emissions clean rfl taken member with ⟨frame, relayed, same⟩ |
    ⟨frame, ack, req, key, decoded, port, plain, built, -, same⟩ | ⟨frame, -, same⟩
  · rw [same]
    refine ⟨?_, before⟩
    obtain ⟨hdr, enc, -, -, -, -, -, copied⟩ := Node.relays_eq_some relayed
    intro packet carried
    obtain ⟨t, known, key, framed⟩ := carried
    exact ⟨t, known, key, copied ▸ framed.relay _ _⟩
  · obtain ⟨-, -, -, -, -, ackKey, framed⟩ := built.ack rfl port plain
    rw [same]
    refine ⟨⟨port, ⟨node.table, table, ackKey, framed⟩, ?_⟩, before⟩
    -- what was answered is the ROUTING packet the chain had come to, whoever decodes it
    intro chained
    obtain ⟨packet, routing, t, known, key', sent⟩ := before.routing chained
    simp only [Node.decodes] at decoded
    split at decoded
    next found decodes =>
      cases decoded
      have data := sent.decoded_data lawful (together t known node.table table) decodes
      exact (congrArg Data.portnum data).trans routing
    next => contradiction
  · rw [same]
    trivial

def Flood.Understood (codec : Codec) (tables : Set ChannelTable) (flood : Flood cfg Name) : Prop :=
  ∀ flight ∈ flood.air, flight.Understood codec tables

theorem Flood.Understood.step {tables : Set ChannelTable} {flood after : Flood cfg Name} {move : Move cfg Name}
    (understood : flood.Understood codec tables) (lawful : codec.Lawful) (together : KeyedTogether tables)
    (heardOn : move.HeardOn tables flood) (taken : flood.step codec boards move = some after) :
    after.Understood codec tables := by
  cases Flood.step_taken taken with
  | @act who request next act done =>
    refine List.forall_mem_append.mpr ⟨?_, understood⟩
    intro flight new
    obtain ⟨wire, -, same⟩ := List.mem_map.mp new
    rw [← same]
    trivial
  | @hear who heard rssi snr around next audible done =>
    refine List.forall_mem_append.mpr ⟨?_, understood⟩
    intro flight new
    have table : (flood.nodes who).cleared.table ∈ tables := heardOn
    exact Node.understood_emissions lawful together rfl table (understood heard audible) done new
  | @bridge who heard mesh around next audible asks done => exact False.elim heardOn

/-- Acknowledgement chains are short: in every run of a mesh, whatever is lost, repeated or delayed, the answer
to a ROUTING packet asks for no acknowledgement, a reception sends one acknowledgement at most and no ROUTING
packet is tracked; and when frames come by radio alone, to nodes in whose tables a hash names one key, no chain
of acknowledgements is longer than two. -/
theorem ack_chains_short (cfg : Kconfig) (codec : Codec) (boards : Name → Board) (start : Name → ChannelTable)
    (moves : List (Move cfg Name)) (last : Flood cfg Name)
    (whole : Transition.run (Flood.step codec boards) (Flood.quiet cfg start) moves = some last) :
    (∀ tables : Set ChannelTable, codec.Lawful → KeyedTogether tables →
      Transition.Guarded (Flood.step codec boards) (fun flood move => move.HeardOn tables flood)
        (Flood.quiet cfg start) moves →
      ∀ flight ∈ last.air, flight.acks ≤ 2) ∧
    (∀ frame ack req heard, Flight.answered frame ack req heard ∈ last.air → req.portnum = PORT_ROUTING →
      ack.wantAck = false ∧ wantsAck frame = false) ∧
    (∀ who frame rssi snr around next,
      (last.nodes who).cleared.step codec (boards who) (.receive frame rssi snr around) = some next →
      ackCount next.log ≤ 1) ∧
    ∀ who i, ((last.nodes who).entries i).id ≠ 0 → ((last.nodes who).entries i).portnum ≠ PORT_ROUTING := by
  have restrained : last.Restrained := by
    refine Transition.run_invariant (fun _ _ _ holds _ => holds.step) ?_ (Transition.guarded_true _ moves) whole
    exact ⟨fun _ member => False.elim (List.not_mem_nil member), fun _ _ waits => False.elim (waits rfl)⟩
  refine ⟨?_, ?_, ?_, restrained.tracks⟩
  · intro tables lawful together guarded flight member
    have quiet : (Flood.quiet cfg start).Understood codec tables := fun _ none => False.elim (List.not_mem_nil none)
    have understood : last.Understood codec tables :=
      Transition.run_invariant (fun _ _ _ holds heardOn taken => holds.step lawful together heardOn taken) quiet
        guarded whole
    exact ((restrained.flights flight member).acks_le (understood flight member)).1
  · intro frame ack req heard member routing
    obtain ⟨⟨same, silent, -⟩, -⟩ := restrained.flights _ member
    exact ⟨silent routing, same.trans (silent routing)⟩
  · intro who frame rssi snr around next done
    exact processLoraRx_ackCount done

end

end

/-! ## Values for examples -/

def askingText : Octets :=
  WireHeader.octets { dest := 0x22, src := 0x11, id := 1, flags := 0x6b, channel := 0x08, nextHop := 0, relayNode := 0 } ++
    [0x08, 0x01, 0x12, 0x02, 0x68, 0x69]

def askingAnswer : Flight :=
  .answered
    (WireHeader.octets
        { dest := 0x11, src := 0x22, id := 1, flags := 0x4a, channel := 0x08, nextHop := 0, relayNode := 0 } ++
      [0x08, 0x05, 0x12, 0x02, 0x18, 0x00, 0x35, 0x01, 0x00, 0x00, 0x00])
    { from_ := 0x22, to_ := 0x11, id := 1, portnum := PORT_ROUTING, payload := [0x18, 0x00], requestId := 1,
      hopLimit := 2, hopStart := 2, wantAck := true }
    { from_ := 0x11, to_ := 0x22, id := 1, portnum := PORT_TEXT_MESSAGE, payload := [0x68, 0x69], hopLimit := 3,
      hopStart := 3, channel := 0x08, wantAck := true, rssi := -90, snr := 6 }
    (.sent askingText)

def askingMoves : List (Move smallKconfig Bool) :=
  [.act false (.init plainNodeConfig plainBoot), .act true (.init plainNodeConfig plainBoot),
    .act false (.send { to_ := 0x22, portnum := PORT_TEXT_MESSAGE, payload := [0x68, 0x69], wantAck := true }
      .forever plainAnswer),
    .hear true (.sent askingText) (-90) 6 plainAround, .hear false askingAnswer (-90) 6 plainAround]

theorem plainTable_keyed : KeyedTogether {plainTable} := by
  intro t known other known'
  rw [known, known']
  decide

theorem ack_chains_short_askingText :
    ∃ last, Transition.run (Flood.step (dataCodec fun _ _ _ => 0) pairBoards)
        (Flood.quiet smallKconfig fun _ => coldTable) askingMoves = some last ∧
      last.air.map Flight.acks = [2, 1, 0] ∧ ∀ flight ∈ last.air, flight.acks ≤ 2 := by
  refine ⟨_, rfl, rfl, ?_⟩
  refine (ack_chains_short smallKconfig (dataCodec fun _ _ _ => 0) pairBoards (fun _ => coldTable) askingMoves _ rfl).1
    {plainTable} (dataCodec_lawful _) plainTable_keyed ?_
  refine ⟨trivial, fun _ same => ?_⟩
  cases same
  refine ⟨trivial, fun _ same => ?_⟩
  cases same
  refine ⟨trivial, fun _ same => ?_⟩
  cases same
  refine ⟨rfl, fun _ same => ?_⟩
  cases same
  exact ⟨rfl, fun _ _ => trivial⟩

/-! ## Longer chains -/

def firstKey : Octets :=
  [0xca, 0x6f, 0x72, 0x9f, 0xde, 0xdf, 0xae, 0x5f, 0x4a, 0xbb, 0x18, 0xcb, 0x4d, 0x73, 0x2d, 0x8b]

def secondKey : Octets :=
  [0xa8, 0x51, 0x77, 0xae, 0x5e, 0x3a, 0x9a, 0xe2, 0x18, 0x95, 0xcc, 0x43, 0x52, 0xc7, 0xbf, 0x16]

def firstBlocks : List ((Octets × Octets) × Octets) :=
  [((firstKey, packetNonce 1 0x11),
      [0xcd, 0xf4, 0x71, 0x69, 0x14, 0x88, 0x34, 0x92, 0xb2, 0x51, 0x76, 0x9c, 0x37, 0xbb, 0x6e, 0x82]),
    ((firstKey, packetNonce 1 0x22),
      [0x89, 0x28, 0x68, 0xfb, 0x94, 0xb9, 0x95, 0x48, 0xdc, 0xa9, 0xc2, 0x06, 0x74, 0x62, 0x6a, 0xfd]),
    ((firstKey, packetNonce 2 0x11),
      [0x79, 0x74, 0x33, 0x41, 0x1f, 0x19, 0xd2, 0xfb, 0x18, 0xca, 0x9d, 0xea, 0x53, 0xe8, 0xd2, 0x57]),
    ((firstKey, packetNonce 2 0x22),
      [0x11, 0x14, 0xd5, 0x86, 0xe2, 0xd6, 0xde, 0xb9, 0x0e, 0x03, 0x25, 0x61, 0x35, 0x55, 0x5a, 0x82]),
    ((secondKey, packetNonce 1 0x11),
      [0xcd, 0xf4, 0xe6, 0xbe, 0x5d, 0x25, 0x81, 0x4b, 0xf1, 0xbb, 0x49, 0xf3, 0xf5, 0x8b, 0xc5, 0x4f]),
    ((secondKey, packetNonce 1 0x22),
      [0x89, 0x2c, 0x2b, 0x08, 0x2d, 0xf5, 0x59, 0x8c, 0xb0, 0x00, 0x56, 0x5c, 0xb8, 0x24, 0x9e, 0x0b]),
    ((secondKey, packetNonce 2 0x11),
      [0x79, 0x5c, 0x58, 0x68, 0x62, 0xf9, 0x5c, 0xef, 0xfe, 0xeb, 0x9e, 0x14, 0x19, 0x78, 0x1f, 0x8a]),
    ((secondKey, packetNonce 2 0x22),
      [0xc3, 0x88, 0x9f, 0xac, 0xb7, 0x38, 0x5c, 0x9b, 0xb4, 0xcf, 0x6f, 0x1d, 0xec, 0x94, 0x36, 0x7b])]

def aesKeystream (key nonce : Octets) (i : Nat) : UInt8 := ((firstBlocks.lookup (key, nonce)).getD []).getD i 0

def bootOn (t : ChannelTable) : Boot := { plainBoot with settings := { plainSettings with table := t } }

def crossRequest (src dest : UInt32) (hops hash slot : UInt8) (viaMqtt : Bool) : Packet :=
  { from_ := src, to_ := dest, id := 1, portnum := PORT_TEXT_MESSAGE, hopLimit := hops, hopStart := hops,
    channel := hash, channelIndex := slot, wantAck := true, viaMqtt := viaMqtt, rssi := -90, snr := 6 }

def crossAnswer (id : UInt32) (hash : UInt8) (enc : Octets) (req : Packet) (heard : Flight) : Flight :=
  .answered
    (WireHeader.octets
        { dest := req.from_, src := req.to_, id := id, flags := 0x4a, channel := hash, nextHop := 0, relayNode := 0 } ++
      enc)
    { from_ := req.to_, to_ := req.from_, id := id, portnum := PORT_ROUTING, payload := [0x18, 0x00], requestId := 1,
      hopLimit := 2, hopStart := 2, channelIndex := req.channelIndex, wantAck := true }
    req heard

def crossText (hash : UInt8) : Flight :=
  .sent (WireHeader.octets
      { dest := 0x22, src := 0x11, id := 1, flags := 0x6b, channel := hash, nextHop := 0, relayNode := 0 } ++ [0xc5, 0xf5])

def crossSend {Name : Type} (who : Name) : Move smallKconfig Name :=
  .act who (.send { to_ := 0x22, portnum := PORT_TEXT_MESSAGE, wantAck := true } .forever plainAnswer)

def crossTable (psk : Octets) : ChannelTable :=
  { plainTable with
    channelSlots := fun i =>
      if i = 0 then { hasSettings := true, role := .primary, settings := { name := CHANNEL_LONGFAST, psk := psk } }
      else { hasSettings := true } }

example : (channelsInitFromConfig 0 (some ⟨firstKey, some CHANNEL_LONGFAST⟩)).map (·.chHash) = some 0x08 ∧
    (channelsInitFromConfig 0 (some ⟨secondKey, some CHANNEL_LONGFAST⟩)).map (·.chHash) = some 0x08 := by decide

def crossFirst : Flight :=
  crossAnswer 1 0x08 [0x81, 0x29, 0x39, 0x0a, 0x35, 0xf5, 0x6c, 0x8d, 0xb0, 0x00, 0x56]
    (crossRequest 0x11 0x22 3 0x08 0 false) (crossText 0x08)

def crossSecond : Flight :=
  crossAnswer 2 0x08 [0x71, 0x71, 0x21, 0x43, 0x07, 0x19, 0xe7, 0xfa, 0x18, 0xca, 0x9d]
    (crossRequest 0x22 0x11 2 0x08 0 false) crossFirst

def crossMoves : List (Move smallKconfig Bool) :=
  [.act false (.init plainNodeConfig (bootOn (crossTable firstKey))),
    .act true (.init plainNodeConfig (bootOn (crossTable secondKey))), crossSend false,
    .hear true (crossText 0x08) (-90) 6 plainAround, .hear false crossFirst (-90) 6 plainAround,
    .hear true crossSecond (-90) 6 plainAround]

def slottedTable : ChannelTable :=
  { channelSlots := fun i =>
      if i = 0 then
        { hasSettings := true, role := .primary, settings := { name := ⟨[0x41, 0x42], by decide⟩, psk := firstKey } }
      else if i = 1 then
        { hasSettings := true, role := .secondary, settings := { name := CHANNEL_LONGFAST, psk := secondKey } }
      else { hasSettings := true }
    channelHashes := fun i => if i = 0 then 0x01 else if i = 1 then 0x08 else 0
    primaryIndex := 0
    chHash := 0x01 }

def slottedBoards (who : Fin 3) : Board :=
  { nodeIdSource := .custom (if who = 0 then 0x11 else if who = 1 then 0x22 else 0x33), defaultHopLimit := 3 }

def slottedFirst : Flight :=
  crossAnswer 1 0x01 [0x81, 0x2d, 0x7a, 0xf9, 0x8c, 0xb9, 0xa0, 0x49, 0xdc, 0xa9, 0xc2]
    (crossRequest 0x11 0x22 3 0x01 0 false) (crossText 0x01)

def slottedBridged : Flight :=
  .bridged
    (WireHeader.octets
        { dest := 0x11, src := 0x22, id := 1, flags := 0x5a, channel := 0x08, nextHop := 0, relayNode := 0 } ++
      [0x81, 0x2d, 0x7a, 0xf9, 0x8c, 0xb9, 0xa0, 0x49, 0xdc, 0xa9, 0xc2])
    slottedFirst

def slottedSecond : Flight :=
  crossAnswer 2 0x08 [0x71, 0x59, 0x4a, 0x6a, 0x7a, 0xf9, 0x69, 0xee, 0xfe, 0xeb, 0x9e]
    (crossRequest 0x22 0x11 2 0x08 1 true) slottedBridged

def slottedMoves (carried : MeshPacket) : List (Move smallKconfig (Fin 3)) :=
  [.act 0 (.init plainNodeConfig (bootOn slottedTable)), .act 1 (.init plainNodeConfig (bootOn slottedTable)),
    .act 2 (.init plainNodeConfig (bootOn slottedTable)), crossSend 0,
    .hear 1 (crossText 0x01) (-90) 6 plainAround, .bridge 2 slottedFirst carried plainAround,
    .hear 0 slottedBridged (-90) 6 plainAround, .hear 1 slottedSecond (-90) 6 plainAround]

/-- A chain of three acknowledgements between two nodes with different keys under one hash, and another among
nodes with one table, where a message that MQTT carries is given the hash of another channel. -/
theorem ack_chains_longer :
    (∃ last, Transition.run (Flood.step (dataCodec aesKeystream) pairBoards)
        (Flood.quiet smallKconfig fun _ => coldTable) crossMoves = some last ∧
      last.air.map Flight.acks = [3, 2, 1, 0]) ∧
    slottedTable.KeyedByHash ∧
    ∃ carried last, mqttMeshFromWire slottedFirst.frame = .ok carried ∧
      Transition.run (Flood.step (dataCodec aesKeystream) slottedBoards)
        (Flood.quiet smallKconfig fun _ => coldTable) (slottedMoves carried.toMeshPacket) = some last ∧
      last.air.map Flight.acks = [3, 2, 1, 1, 0] := by
  exact ⟨⟨_, rfl, rfl⟩, by decide, _, _, rfl, rfl, rfl⟩

end Meshtastic
