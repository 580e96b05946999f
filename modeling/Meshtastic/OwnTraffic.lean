import Meshtastic.DataCodec
import Meshtastic.Lib.Run
import Meshtastic.NewEffects

/-! Own and foreign sources in inbound traffic. A node that does not rebroadcast should put nothing but its
own frames on air, and no node should be handed a packet of its own that a neighbour relays. The first
fails for MQTT downlinks, the second because a sent packet is not remembered. -/

namespace Meshtastic
open Bytes

def frameSource (frame : Octets) : Option UInt32 := (readHeader frame).map (fun parsed => parsed.1.src)

section
variable {cfg : Kconfig}

def Request.isInbound : Request cfg → Bool
  | .receive _ _ _ _ => true
  | .inject _ _ => true
  | _ => false

/-! ## Reactions -/

/-- What a node does in reaction to a packet: it hands over its own frames and delivers nothing. -/
def Node.Reacts (node : Node cfg) : Effect → Prop
  | .handed wire => frameSource wire = some node.nodeId
  | .delivered _ => False
  | _ => True

variable {codec : Codec}

theorem Node.Sending.source {node : Node cfg} {packet local_ : Packet} {wire : Octets}
    (sending : node.Sending codec packet local_ wire) :
    frameSource wire = some (if packet.from_ = 0 then node.nodeId else packet.from_) := by
  obtain ⟨id, -, filled⟩ := sending.filled
  obtain ⟨nodedb, made⟩ := sending.made
  obtain ⟨-, -, key, -, -, same⟩ := buildWirePacket_eq_ok made
  unfold frameSource
  rw [same, readHeader_octets, filled]
  rfl

theorem Node.SendEffect.reacts {node : Node cfg} {packet : Packet} {announced : Bool} {effect : Effect}
    (own : packet.from_ = 0 ∨ packet.from_ = node.nodeId) (fine : node.SendEffect codec packet announced effect) :
    node.Reacts effect := by
  cases fine with
  | handed sending =>
    show frameSource _ = some node.nodeId
    rw [sending.source]
    rcases own with unset | named
    · rw [if_pos unset]
    · rw [named, ite_self]
  | _ => trivial

theorem Node.HandleEffect.reacts {node : Node cfg} {packet : Packet} {wire : Option Octets} {effect : Effect}
    (fine : node.HandleEffect codec packet wire effect) : node.Reacts effect := by
  cases fine with
  | event type err about => trivial
  | heard => trivial
  | ack toUs foreign asks fine => exact fine.reacts (.inr rfl)
  | module fine =>
    cases fine with
    | sent unsent port fine => exact fine.reacts (.inl unsent.1)

/-! ## Downlinks that a muted node forwards -/

def Node.sendable (codec : Codec) (node : Node cfg) (relay : Answer) (mesh : MeshPacket) : Bool :=
  match mesh.payload with
  | .encrypted enc => enc.length ≤ PAYLOAD_MAX
  | .decoded data =>
    mesh.hopLimit ≠ 0 &&
      match buildWirePacket codec node.table relay.nodedb
        (node.fillPacket (meshPbPacket { mesh with viaMqtt := true } data) (node.drawId mesh.id).1) with
      | some (.ok _) => true
      | _ => false
  | .unset _ => false

/-- A downlink of another node, new and not for this node, whose frame can be made and is taken. -/
def Node.Forwards (codec : Codec) (node : Node cfg) (relay : Answer) (mesh : MeshPacket) : Prop :=
  node.initialized = true ∧ node.dupCheck mesh.from_ mesh.id = false ∧ mesh.to_ ≠ node.nodeId ∧
    mesh.from_ ≠ 0 ∧ mesh.from_ ≠ node.nodeId ∧ node.sendable codec relay mesh = true ∧ relay.radio.takes = true

instance (node : Node cfg) (relay : Answer) (mesh : MeshPacket) : Decidable (node.Forwards codec relay mesh) :=
  inferInstanceAs (Decidable (_ ∧ _))

theorem Node.MeshEffect.source {node : Node cfg} {mesh : MeshPacket} {wire : Octets}
    (fine : node.MeshEffect codec mesh (.handed wire)) :
    frameSource wire = some (if mesh.from_ = 0 then node.nodeId else mesh.from_) := by
  cases fine with
  | decoded payload fine =>
    cases fine with
    | handed sending => exact sending.source
  | encrypted payload fine =>
    cases fine with
    | handed id hopLimit hopStart fits =>
      unfold frameSource
      rw [readHeader_octets]
      simp only [Node.meshPbHeader, Option.map_some, ne_eq, ite_not]

theorem sendPacket_hands_iff {node next : Node cfg} {packet : Packet} {wait : Wait} {answer : Answer}
    {ret : Option Errno} (ready : node.initialized = true) (addressed : packet.to_ ≠ 0)
    (sent : sendPacket codec answer node packet wait = some (ret, next)) :
    node.Shows Effect.handed next ↔
      (∃ wire, buildWirePacket codec node.table answer.nodedb (node.fillPacket packet (node.drawId packet.id).1) =
        some (.ok wire)) ∧ answer.radio.takes = true := by
  have drew : node.Kept (node.drawId packet.id).2 :=
    (node.emits_drawId packet.id : node.Emits (fun _ => False) _).toKept
  by_cases buildable : ∃ wire, buildWirePacket codec node.table answer.nodedb
      (node.fillPacket packet (node.drawId packet.id).1) = some (.ok wire)
  · obtain ⟨wire, made⟩ := buildable
    obtain ⟨after, queued, ended⟩ := sendPacket_offers ready addressed made sent
    have sending : node.Sending codec packet (node.fillPacket packet (node.drawId packet.id).1) wire :=
      ⟨ready, ⟨_, fun given => by rw [node.drawId_given given], rfl⟩, _, made⟩
    have lengths := sending.length
    have header : HDR_LEN = 16 := rfl
    have offered := outboundEnqueue_newEffects (by omega) lengths.2 queued
    have rest : after.Emits (fun effect => ∀ wire, effect ≠ .handed wire) next :=
      sendEnded_emits (fun _ => nofun) (fun _ _ => nofun) ended
    have grown : after.log = ((if answer.radio.takes then [⟨(node.drawId packet.id).2.nodeId, .handed wire⟩] else []) ++
        [⟨(node.drawId packet.id).2.nodeId, .built (node.fillPacket packet (node.drawId packet.id).1)
          (wireKey node.table answer.nodedb (node.fillPacket packet (node.drawId packet.id).1)) wire⟩]) ++ node.log := by
      rw [offered, List.append_assoc, ← node.drawId_log packet.id]
      rfl
    rw [rest.shows_iff grown]
    cases answer.radio.takes with
    | false => simp [made]
    | true => simp [made]
  · rw [iff_false_right (fun both => buildable both.1)]
    apply Node.not_shows_of_same
    rcases sendPacket_stages sent with ⟨-, same | drawn⟩ | ⟨wire, after, -, made, -, -⟩
    · rw [same]
    · rw [drawn, node.drawId_log]
    · rw [drew.fillPacket, drew.table] at made
      exact absurd ⟨wire, made⟩ buildable

theorem outboundEnqueue_hands_iff {node mid after next : Node cfg} {hdr : WireHeader} {enc : Octets} {wait : Wait}
    {radio : RadioAnswer} {ret : Option Errno} (short : enc.length ≤ PAYLOAD_MAX) (same : mid.log = node.log)
    (sent : mid.outboundEnqueue (hdr.octets ++ enc) wait radio = (ret, after))
    (rest : after.Emits (fun effect => ∀ wire, effect ≠ .handed wire) next) :
    node.Shows Effect.handed next ↔ radio.takes = true := by
  have limits : PAYLOAD_MAX = 239 ∧ PKT_MAX = 255 := by decide
  have length : (hdr.octets ++ enc).length = 16 + enc.length := by
    rw [List.length_append, WireHeader.octets_length]
    rfl
  have offered := outboundEnqueue_newEffects (by omega) (by omega) sent
  rw [rest.shows_iff (same ▸ offered)]
  cases radio.takes with
  | false => simp
  | true => simp

theorem sendEncryptedMeshPb_hands_iff {node next : Node cfg} {mesh : MeshPacket} {enc : Octets} {answer : Answer}
    {ret : Option Errno} (sent : sendEncryptedMeshPb answer node mesh enc = (ret, next)) :
    node.Shows Effect.handed next ↔ enc.length ≤ PAYLOAD_MAX ∧ answer.radio.takes = true := by
  unfold sendEncryptedMeshPb at sent
  by_cases long : enc.length > PAYLOAD_MAX
  · rw [if_pos long] at sent
    cases sent
    rw [iff_false_right (fun both => absurd both.1 (Nat.not_le.mpr long))]
    exact Node.not_shows_of_same rfl
  · rw [if_neg long] at sent
    have short : enc.length ≤ PAYLOAD_MAX := Nat.not_lt.mp long
    simp only at sent
    rw [and_iff_right short]
    split at sent
    next err after queued =>
      cases sent
      exact outboundEnqueue_hands_iff short (node.drawId_log mesh.id) queued (Node.Emits.refl next)
    next after queued =>
      cases sent
      exact outboundEnqueue_hands_iff short (node.drawId_log mesh.id) queued (after.emits_mqttOnTx (fun _ => nofun))

theorem relayInjectedEncryptedMeshPacket_hands_iff {node next : Node cfg} {mesh : MeshPacket} {enc : Octets}
    {radio : RadioAnswer} {ret : Option Errno}
    (sent : relayInjectedEncryptedMeshPacket radio node mesh enc = (ret, next)) :
    node.Shows Effect.handed next ↔ enc.length ≤ PAYLOAD_MAX ∧ radio.takes = true := by
  unfold relayInjectedEncryptedMeshPacket at sent
  by_cases long : enc.length > PAYLOAD_MAX
  · rw [if_pos long] at sent
    cases sent
    rw [iff_false_right (fun both => absurd both.1 (Nat.not_le.mpr long))]
    exact Node.not_shows_of_same rfl
  · rw [if_neg long] at sent
    have short : enc.length ≤ PAYLOAD_MAX := Nat.not_lt.mp long
    rw [and_iff_right short]
    exact outboundEnqueue_hands_iff short (node.drawId_log mesh.id) sent (Node.Emits.refl next)

theorem meshPbPacket_addressed (mesh : MeshPacket) (data : Data) : (meshPbPacket mesh data).to_ ≠ 0 := by
  unfold meshPbPacket
  by_cases unset : mesh.to_ = 0
  · simp only [unset, ne_eq, not_true, if_false]
    decide
  · simp only [ne_eq, unset, not_false_eq_true, if_true]

theorem builds_iff {built : Option (Except Errno Octets)} :
    (match built with | some (.ok _) => true | _ => false) = true ↔ ∃ wire, built = some (.ok wire) := by
  rcases built with _ | _ | wire
  · simp
  · simp
  · simp

theorem injectRelay_hands_iff {node next : Node cfg} {mesh : MeshPacket} {around : Surroundings} {ret : Option Errno}
    (ready : node.initialized = true)
    (done : injectRelay codec around node { mesh with viaMqtt := true } = some (ret, next)) :
    node.Shows Effect.handed next ↔
      mesh.to_ ≠ node.nodeId ∧ node.sendable codec around.relay mesh = true ∧ around.relay.radio.takes = true := by
  unfold injectRelay at done
  by_cases toUs : mesh.to_ = node.nodeId
  · rw [if_pos toUs] at done
    cases done
    rw [iff_false_right (fun all => all.1 toUs)]
    exact Node.not_shows_of_same rfl
  rw [if_neg toUs] at done
  rw [and_iff_right toUs]
  unfold Node.sendable
  cases payload : mesh.payload with
  | encrypted enc =>
    simp only [decide_eq_true_eq]
    split_ifs at done
    · simp only [payload] at done
      exact relayInjectedEncryptedMeshPacket_hands_iff (Option.some.inj done)
    · simp only [sendMeshPb, payload] at done
      exact sendEncryptedMeshPb_hands_iff (Option.some.inj done)
  | decoded data =>
    by_cases last : mesh.hopLimit = 0
    · simp only [payload, last, if_true] at done
      cases done
      simp only [last, ne_eq, not_true, decide_false, Bool.false_and, Bool.false_eq_true, false_and, iff_false]
      exact Node.not_shows_of_same rfl
    · rw [if_neg last] at done
      simp only [sendMeshPb, payload] at done
      have addressed : (meshPbPacket { mesh with viaMqtt := true } data).to_ ≠ 0 := meshPbPacket_addressed _ data
      rw [sendPacket_hands_iff ready addressed done, ← builds_iff]
      simp only [last, ne_eq, not_false_eq_true, decide_true, Bool.true_and]
      rfl
  | unset enc =>
    simp only [Bool.false_eq_true, false_and, iff_false]
    apply Node.not_shows_of_same
    simp only [sendMeshPb, payload] at done
    split_ifs at done <;> cases done <;> rfl

/-! ## Muted nodes -/

/-- An inbound call makes a node that does not rebroadcast put only its own frames on air. -/
def Node.StaysMuted (node : Node cfg) (request : Request cfg) (next : Node cfg) : Prop :=
  isRebroadcaster node.deviceRole node.rebroadcastMode = false → request.isInbound = true →
    ∀ wire, .handed wire ∈ node.newEffects next → frameSource wire = some node.nodeId

def Node.NothingToForward (codec : Codec) (node : Node cfg) : Request cfg → Prop
  | .inject mesh around =>
    isRebroadcaster node.deviceRole node.rebroadcastMode = false → ¬node.Forwards codec around.relay mesh
  | _ => True

instance (node : Node cfg) (request : Request cfg) : Decidable (node.NothingToForward codec request) :=
  match request with
  | .inject mesh around => inferInstanceAs (Decidable (_ → ¬node.Forwards codec around.relay mesh))
  | .init _ _ => isTrue trivial
  | .configure _ => isTrue trivial
  | .send _ _ _ => isTrue trivial
  | .phone _ _ => isTrue trivial
  | .receive _ _ _ _ => isTrue trivial
  | .work _ _ _ => isTrue trivial

theorem Node.relays_muted {node : Node cfg} {request : Request cfg}
    (muted : isRebroadcaster node.deviceRole node.rebroadcastMode = false) : node.relays codec request = none := by
  have quiet : ∀ hdr frame packet, ¬node.Relayable hdr frame packet := by
    intro hdr frame packet may
    have forwards := may.1
    rw [muted] at forwards
    cases forwards
  unfold relays
  split
  · split
    · rw [Node.rebroadcasts_eq]
      split
      · rfl
      · rw [if_neg (quiet _ _ _)]
    · rfl
  · rfl

theorem Node.remember_log (node : Node cfg) (request : Request cfg) : (node.remember request).log = node.log := by
  unfold remember
  split <;> rfl

theorem Node.stays_muted_receive {node next : Node cfg} {frame : Octets} {rssi snr : Int} {around : Surroundings}
    (taken : processLoraRx codec around node frame rssi snr = some next) :
    node.StaysMuted (.receive frame rssi snr around) next := by
  intro muted _ wire handed
  obtain ⟨before, emits, same⟩ := processLoraRx_emits taken
  rw [Node.relays_muted muted] at same
  rw [same] at handed
  have logs : node.newEffects before = (node.remember (.receive frame rssi snr around)).newEffects before := by
    unfold newEffects
    rw [node.remember_log]
  rw [logs] at handed
  cases emits.newEffects _ handed with
  | handle heard fine => exact fine.reacts
  | send asked => cases asked
  | phone asked => cases asked
  | inject asked => cases asked
  | retry asked => cases asked

theorem handleInboundMessage_emits {node next : Node cfg} {packet : Packet} {around : Surroundings}
    (handled : handleInboundMessage codec around node packet = some next) :
    node.Emits (fun effect => ∀ wire, effect = .handed wire → frameSource wire = some node.nodeId) next := by
  have delivering : node.Emits (fun effect => ∀ wire, effect = .handed wire → frameSource wire = some node.nodeId)
      (filterAndDeliver node packet) :=
    filterAndDeliver_emits_of node packet (fun _ => nofun) (fun _ => nofun) (fun _ => nofun)
  refine delivering.trans ((handleDecoded_emits handled).mono ?_)
  intro effect fine wire same
  rw [same] at fine
  rw [← delivering.nodeId]
  exact fine.reacts

theorem injectDownlinkMeshPacket_hands {node next : Node cfg} {mesh : MeshPacket} {around : Surroundings}
    {ret : Option Errno} (on : node.initialized ≠ false) (fresh : node.dupCheck mesh.from_ mesh.id ≠ true)
    (done : injectDownlinkMeshPacket codec around node mesh = some (ret, next)) :
    ∃ err after, injectRelay codec around (node.dupAdd mesh.from_ mesh.id) { mesh with viaMqtt := true } =
        some (err, after) ∧
      (∀ effect ∈ node.newEffects after, effect ∈ node.newEffects next) ∧
      (∀ wire, .handed wire ∈ node.newEffects next →
        .handed wire ∈ node.newEffects after ∨ frameSource wire = some node.nodeId) := by
  obtain ⟨err, after, relayed, ends⟩ := injectDownlinkMeshPacket_handles on fresh done
  refine ⟨err, after, relayed, ?_⟩
  have relaying := injectRelay_emits relayed
  obtain ⟨older, before, -⟩ := relaying.log
  have alike : node.Alike after := (node.alike_dupAdd mesh.from_ mesh.id).trans relaying.toAlike
  have later : after.Emits (fun effect => ∀ wire, effect = .handed wire → frameSource wire = some node.nodeId) next := by
    rcases ends with same | ⟨packet, -, handled⟩
    · rw [same]
      exact Node.Emits.refl after
    · rw [← alike.nodeId]
      exact handleInboundMessage_emits handled
  obtain ⟨newer, behind, fine⟩ := later.log
  have grown : after.log = older.map (Record.mk node.nodeId) ++ node.log := before
  have whole : next.log = (newer.map (Record.mk after.nodeId) ++ older.map (Record.mk node.nodeId)) ++ node.log := by
    rw [behind, grown, List.append_assoc]
  rw [Node.newEffects_eq grown, Node.newEffects_eq whole, List.map_append]
  constructor
  · intro effect member
    exact List.mem_append_right _ member
  · intro wire member
    rcases List.mem_append.mp member with new | old
    · rw [List.map_map] at new
      obtain ⟨effect, inside, here⟩ := List.mem_map.mp new
      exact Or.inr (fine effect inside wire here)
    · exact Or.inl old

theorem Node.sendable_dupAdd (node : Node cfg) (src id : UInt32) (relay : Answer) (mesh : MeshPacket) :
    (node.dupAdd src id).sendable codec relay mesh = node.sendable codec relay mesh := by
  have drawn : ((node.dupAdd src id).drawId mesh.id).1 = (node.drawId mesh.id).1 := by
    unfold drawId allocatePacketId dupAdd
    simp only
    split_ifs <;> rfl
  unfold sendable
  rw [drawn]
  rfl

/-- A downlink makes a muted node transmit a foreign frame exactly when it is one that is forwarded. -/
theorem Node.stays_muted_inject_iff {node next : Node cfg} {mesh : MeshPacket} {around : Surroundings}
    {ret : Option Errno} (done : injectDownlinkMeshPacket codec around node mesh = some (ret, next)) :
    node.StaysMuted (.inject mesh around) next ↔ node.NothingToForward codec (.inject mesh around) := by
  apply imp_congr_right
  intro muted
  by_cases refused : node.initialized = false ∨ node.dupCheck mesh.from_ mesh.id = true
  · have same := injectDownlinkMeshPacket_refused refused done
    have idle : ¬node.Shows Effect.handed next := Node.not_shows_of_same (congrArg Node.log same)
    constructor
    · intro _ forwards
      rcases refused with off | seen
      · exact absurd (forwards.1.symm.trans off) (by decide)
      · exact absurd (forwards.2.1.symm.trans seen) (by decide)
    · intro _ _ wire handed
      exact absurd ⟨wire, handed⟩ idle
  · obtain ⟨on, fresh⟩ := not_or.mp refused
    obtain ⟨err, after, relayed, kept, sources⟩ := injectDownlinkMeshPacket_hands on fresh done
    have running : node.initialized = true := by simpa using on
    have ready : (node.dupAdd mesh.from_ mesh.id).initialized = true := running
    have unseen : node.dupCheck mesh.from_ mesh.id = false := by simpa using fresh
    have hands := injectRelay_hands_iff ready relayed
    rw [Node.sendable_dupAdd] at hands
    have origin : ∀ wire, .handed wire ∈ node.newEffects after →
        frameSource wire = some (if mesh.from_ = 0 then node.nodeId else mesh.from_) :=
      fun wire member => ((injectRelay_emits relayed).newEffects _ member).source
    constructor
    · intro own forwards
      obtain ⟨-, -, elsewhere, named, foreign, makes, takes⟩ := forwards
      obtain ⟨wire, handed⟩ := hands.mpr ⟨elsewhere, makes, takes⟩
      have source := own rfl wire (kept _ handed)
      rw [origin wire handed, if_neg named] at source
      exact foreign (Option.some.inj source)
    · intro nothing _ wire handed
      rcases sources wire handed with relay | own
      · obtain ⟨elsewhere, makes, takes⟩ := hands.mp ⟨wire, relay⟩
        rw [origin wire relay]
        split_ifs with unset
        · rfl
        · by_contra other
          exact nothing ⟨running, unseen, elsewhere, unset, fun same => other (congrArg some same), makes, takes⟩
      · exact own

theorem Node.stays_muted_iff {board : Board} (node : Node cfg) (request : Request cfg) (next : Node cfg)
    (taken : node.step codec board request = some next) :
    node.StaysMuted request next ↔ node.NothingToForward codec request := by
  cases request with
  | inject mesh around =>
    obtain ⟨⟨ret, after⟩, done, same⟩ := Option.map_eq_some_iff.mp taken
    cases same
    exact Node.stays_muted_inject_iff done
  | receive frame rssi snr around => exact iff_of_true (Node.stays_muted_receive taken) trivial
  | _ => exact iff_of_true (fun _ inbound => nomatch inbound) trivial

end

/-- In every run, inbound traffic makes the node put only its own frames on air while it does not
rebroadcast, exactly when no downlink comes in that it forwards then. -/
theorem muted_transmits_own_iff (cfg : Kconfig) (codec : Codec) (board : Board) (table : ChannelTable)
    (requests : List (Request cfg)) {last : Node cfg}
    (whole : Transition.run (Node.step codec board) (Node.powerOn cfg table) requests = some last) :
    Transition.Each (Node.step codec board) Node.StaysMuted (Node.powerOn cfg table) requests ↔
      Transition.Guarded (Node.step codec board) (Node.NothingToForward codec) (Node.powerOn cfg table) requests :=
  Transition.each_iff_guarded Node.stays_muted_iff whole

def mutedSettings : Settings := { plainSettings with deviceRole := .clientMute }

def lastHopDownlink (from_ to_ : UInt32) : MeshPacket :=
  { from_ := from_, to_ := to_, id := 9, channel := 0x08, payload := .encrypted [0x08, 1, 0x12, 0x02, 0x68, 0x69] }

theorem muted_transmits_own_served :
    Transition.Each (Node.step (dataCodec fun _ _ _ => 0) plainBoard) Node.StaysMuted (Node.powerOn smallKconfig coldTable)
      [.init plainNodeConfig plainBoot, .configure mutedSettings, .inject (lastHopDownlink 0x11 0x44) plainAround,
        .inject (lastHopDownlink 0x33 0x11) plainAround] :=
  (muted_transmits_own_iff smallKconfig (dataCodec fun _ _ _ => 0) plainBoard coldTable _ rfl).mpr (by decide +kernel)

/-- A muted gateway sends on a downlink from node 0x33 to node 0x44. -/
theorem muted_forwards_downlink :
    ∃ node next, Transition.run (Node.step (dataCodec fun _ _ _ => 0) plainBoard) (Node.powerOn smallKconfig coldTable)
        [.init plainNodeConfig plainBoot, .configure mutedSettings] = some node ∧
      node.step (dataCodec fun _ _ _ => 0) plainBoard (.inject (lastHopDownlink 0x33 0x44) plainAround) = some next ∧
      node.nodeId = 0x11 ∧ ¬node.StaysMuted (.inject (lastHopDownlink 0x33 0x44) plainAround) next := by
  refine ⟨_, _, rfl, rfl, rfl, ?_⟩
  intro own
  exact absurd (own (by decide) rfl _ (.head _)) (by decide)

/-! ## Own packets -/

section
variable {cfg : Kconfig} {codec : Codec}

/-- A LoRa frame that names this node as its source is not passed to `deliver_packet`. -/
def Node.IgnoresOwn (node : Node cfg) (request : Request cfg) (next : Node cfg) : Prop :=
  ∀ frame rssi snr around, request = .receive frame rssi snr around → frameSource frame = some node.nodeId →
    ¬node.Shows Effect.delivered next

def Node.filtersOut (codec : Codec) (node : Node cfg) (frame : Octets) (rssi snr : Int) (nodedb : NodeDbGet) : Bool :=
  match node.tryDecode codec nodedb frame rssi snr with
  | some (.ok (packet, true)) => node.rebroadcastMode = .corePortnumsOnly && !isCorePort packet.portnum
  | _ => true

/-- What keeps a frame with this header from delivery. -/
def Node.Stops (codec : Codec) (node : Node cfg) (frame : Octets) (rssi snr : Int) (nodedb : NodeDbGet)
    (hdr : WireHeader) : Prop :=
  (cfg.mqttIgnoreMqtt = true ∧ flagsViaMqtt hdr.flags = true) ∨ node.dupCheck hdr.src hdr.id = true ∨
    (hdr.dest ≠ node.nodeId ∧ hdr.dest ≠ NODE_BROADCAST) ∨ node.filtersOut codec frame rssi snr nodedb = true

/-- No frame of this node comes back that it would take for a new packet to it. -/
def Node.OwnUnheard (codec : Codec) (node : Node cfg) : Request cfg → Prop
  | .receive frame rssi snr around =>
    ∀ parsed ∈ readHeader frame, parsed.1.src = node.nodeId → node.Stops codec frame rssi snr around.nodedb parsed.1
  | _ => True

instance (node : Node cfg) (frame : Octets) (rssi snr : Int) (nodedb : NodeDbGet) (hdr : WireHeader) :
    Decidable (node.Stops codec frame rssi snr nodedb hdr) :=
  inferInstanceAs (Decidable (_ ∨ _))

instance (node : Node cfg) (request : Request cfg) : Decidable (node.OwnUnheard codec request) :=
  match request with
  | .receive frame rssi snr around =>
    inferInstanceAs (Decidable (∀ parsed ∈ readHeader frame, parsed.1.src = node.nodeId →
      node.Stops codec frame rssi snr around.nodedb parsed.1))
  | .init _ _ => isTrue trivial
  | .configure _ => isTrue trivial
  | .send _ _ _ => isTrue trivial
  | .phone _ _ => isTrue trivial
  | .inject _ _ => isTrue trivial
  | .work _ _ _ => isTrue trivial

theorem Node.Reacts.not_delivered {node : Node cfg} {effect : Effect} (reacts : node.Reacts effect) (packet : Packet) :
    effect ≠ .delivered packet := by
  intro same
  rw [same] at reacts
  exact reacts

theorem routingSniffRebroadcast_emits (radio : RadioAnswer) (node : Node cfg) (hdr : WireHeader) (frame : Octets)
    (packet : Packet) :
    node.Emits (fun effect => ∀ packet, effect ≠ .delivered packet)
      (routingSniffRebroadcast radio node hdr frame packet) := by
  rw [routingSniffRebroadcast_rebroadcasts]
  split
  · exact (Node.Emits.refl node).note (fun _ => nofun)
  · exact Node.Emits.refl node

theorem handleDecoded_delivers_iff {node after next : Node cfg} {packet : Packet} {wire : Option Octets}
    {around : Surroundings} (handled : handleDecoded codec around (filterAndDeliver node packet) packet wire = some after)
    (later : after.Emits (fun effect => ∀ packet, effect ≠ .delivered packet) next) :
    node.Shows Effect.delivered next ↔
      packetIsToUs node.nodeId packet = true ∧
        ¬(node.rebroadcastMode = .corePortnumsOnly ∧ isCorePort packet.portnum = false) := by
  have rest : (filterAndDeliver node packet).Emits (fun effect => ∀ packet, effect ≠ .delivered packet) next :=
    ((handleDecoded_emits handled).mono (fun _ fine => fine.reacts.not_delivered)).trans later
  unfold filterAndDeliver at rest
  by_cases filtered : node.rebroadcastMode = .corePortnumsOnly ∧ isCorePort packet.portnum = false
  · rw [if_pos filtered] at rest
    rw [iff_false_right (fun both => both.2 filtered)]
    apply Node.not_shows_of_emits
    exact ((Node.Emits.refl node).note (fun _ => nofun)).trans rest
  · rw [if_neg filtered] at rest
    rw [and_iff_left filtered]
    by_cases toUs : packetIsToUs node.nodeId packet = true
    · rw [if_pos toUs] at rest
      have grown : (deliverPacket node packet).log =
          [⟨node.nodeId, .event .packetReceived none packet⟩, ⟨node.nodeId, .delivered packet⟩] ++ node.log := rfl
      rw [rest.shows_iff grown]
      exact iff_of_true ⟨packet, by simp⟩ toUs
    · rw [if_neg toUs] at rest
      exact iff_of_false (Node.not_shows_of_emits rest) toUs

/-- Which frames are passed to `deliver_packet`. -/
theorem processLoraRx_delivers_iff {node next : Node cfg} {frame enc : Octets} {hdr : WireHeader} {rssi snr : Int}
    {around : Surroundings} (parsed : readHeader frame = some (hdr, enc))
    (taken : processLoraRx codec around node frame rssi snr = some next) :
    node.Shows Effect.delivered next ↔ ¬node.Stops codec frame rssi snr around.nodedb hdr := by
  cases processLoraRx_cases taken with
  | short absent =>
    rw [parsed] at absent
    cases absent
  | ignored again ignored =>
    cases parsed.symm.trans again
    exact iff_of_false (Node.not_shows_of_same rfl) (not_not.mpr (.inl ignored))
  | duplicate again heeded seen =>
    cases parsed.symm.trans again
    exact iff_of_false (Node.not_shows_of_same rfl) (not_not.mpr (.inr (.inl seen)))
  | reacked again heeded seen decodes acked =>
    cases parsed.symm.trans again
    refine iff_of_false (Node.not_shows_of_emits ?_) (not_not.mpr (.inr (.inl seen)))
    exact (routingOnDecoded_emits none acked).mono (fun _ fine => fine.reacts.not_delivered)
  | garbled again heeded fresh fails =>
    have out : node.filtersOut codec frame rssi snr around.nodedb = true := by
      simp only [Node.filtersOut, fails]
    exact iff_of_false (Node.not_shows_of_same rfl) (not_not.mpr (.inr (.inr (.inr out))))
  | @undecoded hdr' enc' packet again heeded fresh decodes =>
    cases parsed.symm.trans again
    have out : node.filtersOut codec frame rssi snr around.nodedb = true := by
      simp only [Node.filtersOut, decodes]
    have noted : (node.dupAdd hdr.src hdr.id).Emits (fun effect => ∀ packet, effect ≠ .delivered packet)
        ((node.dupAdd hdr.src hdr.id).dispose around.nodedb packet false) :=
      (Node.Emits.refl _).note (fun _ => nofun)
    have silent := Node.not_shows_of_emits
      (noted.trans (routingSniffRebroadcast_emits around.relay.radio _ hdr frame packet))
    exact iff_of_false silent (not_not.mpr (.inr (.inr (.inr out))))
  | @decoded hdr' enc' packet after again heeded fresh decodes handled =>
    cases parsed.symm.trans again
    have addressed : packet.to_ = hdr.dest := by
      rcases tryDecodeWirePacket_cases parsed decodes with ⟨same, -⟩ | ⟨data, ch, -, -, ⟨-, same⟩ | ⟨-, same⟩⟩
      · cases same
      · cases same
        rfl
      · cases same
    have delivers := handleDecoded_delivers_iff handled
      (routingSniffRebroadcast_emits around.relay.radio after hdr frame packet)
    refine Iff.trans delivers ?_
    simp only [Node.Stops, packetIsToUs, addressed, Node.filtersOut, decodes, heeded, fresh, Node.dupAdd, Bool.or_eq_true,
      decide_eq_true_eq, Bool.and_eq_true, Bool.not_eq_true', Bool.false_eq_true, false_or, not_or, ne_eq, not_and,
      not_not]
    by_cases toUs : hdr.dest = node.nodeId
    · simp [toUs]
    · simp [toUs]

theorem Node.ignores_own_iff {board : Board} (node : Node cfg) (request : Request cfg) (next : Node cfg)
    (taken : node.step codec board request = some next) :
    node.IgnoresOwn request next ↔ node.OwnUnheard codec request := by
  cases request with
  | receive frame rssi snr around =>
    cases parsed : readHeader frame with
    | none =>
      have nothing : frameSource frame = none := by
        unfold frameSource
        rw [parsed]
        rfl
      constructor
      · intro _ pair here
        rw [parsed] at here
        cases here
      · intro _ frame' rssi' snr' around' same own
        cases same
        rw [nothing] at own
        cases own
    | some pair =>
      obtain ⟨hdr, enc⟩ := pair
      have source : frameSource frame = some hdr.src := by
        unfold frameSource
        rw [parsed]
        rfl
      have delivers := processLoraRx_delivers_iff parsed taken
      constructor
      · intro ignores pair here own
        cases parsed.symm.trans here
        have silent := ignores frame rssi snr around rfl (source.trans (congrArg some own))
        rw [delivers, not_not] at silent
        exact silent
      · intro stopped frame' rssi' snr' around' same own
        cases same
        rw [delivers, not_not]
        exact stopped (hdr, enc) parsed (Option.some.inj (source.symm.trans own))
  | _ => exact iff_of_true (fun _ _ _ _ received => nomatch received) trivial

end

/-- In every run, no LoRa frame with the source of this node is passed to `deliver_packet`, exactly when
each such frame is stopped on its way there. -/
theorem own_packets_ignored_iff (cfg : Kconfig) (codec : Codec) (board : Board) (table : ChannelTable)
    (requests : List (Request cfg)) {last : Node cfg}
    (whole : Transition.run (Node.step codec board) (Node.powerOn cfg table) requests = some last) :
    Transition.Each (Node.step codec board) Node.IgnoresOwn (Node.powerOn cfg table) requests ↔
      Transition.Guarded (Node.step codec board) (Node.OwnUnheard codec) (Node.powerOn cfg table) requests :=
  Transition.each_iff_guarded Node.ignores_own_iff whole

def broadcastText : Packet :=
  { to_ := NODE_BROADCAST, id := 7, portnum := PORT_TEXT_MESSAGE, payload := [0x68, 0x69] }

def relayedText : Octets :=
  { dest := NODE_BROADCAST, src := 0x11, id := 7, flags := 0x62, channel := 0x08, nextHop := 0, relayNode := 0 :
    WireHeader }.octets ++ [0x08, 1, 0x12, 0x02, 0x68, 0x69]

theorem own_packets_ignored_knownOnly :
    Transition.Each (Node.step (dataCodec fun _ _ _ => 0) plainBoard) Node.IgnoresOwn
      (Node.powerOn smallKconfig coldTable)
      [.init plainNodeConfig plainBoot, .send broadcastText .forever plainAnswer,
        .configure { plainSettings with rebroadcastMode := .knownOnly },
        .receive relayedText (-90) 6 plainAround] :=
  (own_packets_ignored_iff smallKconfig (dataCodec fun _ _ _ => 0) plainBoard coldTable _ rfl).mpr (by decide +kernel)

/-- A neighbour relays the text of this node, and the node gets it as a packet of its own. -/
theorem own_packet_delivered :
    ∃ node next, Transition.run (Node.step (dataCodec fun _ _ _ => 0) plainBoard) (Node.powerOn smallKconfig coldTable)
        [.init plainNodeConfig plainBoot, .send broadcastText .forever plainAnswer] = some node ∧
      (∃ wire, .handed wire ∈ node.log.map Record.effect ∧ relayFrame wire 0x63 3 = relayedText) ∧
      node.step (dataCodec fun _ _ _ => 0) plainBoard (.receive relayedText (-90) 6 plainAround) = some next ∧
      ¬node.IgnoresOwn (.receive relayedText (-90) 6 plainAround) next := by
  refine ⟨_, _, rfl, ⟨_, .tail _ (.tail _ (.head _)), by decide⟩, rfl, ?_⟩
  intro ignores
  exact ignores _ _ _ _ rfl (by decide) ⟨_, .tail _ (.tail _ (.head _))⟩

end Meshtastic
