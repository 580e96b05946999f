import Meshtastic.DataCodec
import Meshtastic.NodeRules
import Meshtastic.PacketRoundTrip

/-! Whose packets the node waits for. The retry table is meant for locally originated packets;
the send path also carries packets that name another source. -/

namespace Meshtastic
open Bytes

section
variable {cfg : Kconfig}

/-- Every pending frame names the local node as its source. -/
def Node.TracksLocal (node : Node cfg) : Prop :=
  ∀ i, (node.entries i).id ≠ 0 →
    ∃ hdr enc, readHeader (node.entries i).wire = some (hdr, enc) ∧ hdr.src = node.nodeId

def asksForAck (nodeId : UInt32) (packet : Packet) : Bool :=
  packet.wantAck && packet.to_ != NODE_BROADCAST && packet.to_ != nodeId && packet.portnum != PORT_ROUTING

def localSource (nodeId : UInt32) (packet : Packet) : Bool :=
  !asksForAck nodeId packet || packet.from_ == 0 || packet.from_ == nodeId

/-- The sends of a request have local sources. A downlink is sent on with hops left only. -/
def Request.localSource (nodeId : UInt32) : Request cfg → Bool
  | .send packet _ _ => Meshtastic.localSource nodeId packet
  | .phone mesh _ =>
    match mesh.payload with
    | .decoded data => Meshtastic.localSource nodeId (meshPbPacket mesh data)
    | _ => true
  | .inject mesh _ =>
    match mesh.payload with
    | .decoded data => mesh.hopLimit == 0 || Meshtastic.localSource nodeId (meshPbPacket mesh data)
    | _ => true
  | _ => true

variable {codec : Codec} {board : Board} {request : Request cfg}

theorem buildWirePacket_header {t : ChannelTable} {nodedb : NodeDbGet} {packet : Packet} {wire : Octets}
    (made : buildWirePacket codec t nodedb packet = some (.ok wire)) :
    ∃ hash enc, readHeader wire = some (packet.header hash, enc) := by
  obtain ⟨-, -, key, -, -, same⟩ := buildWirePacket_eq_ok made
  rw [same]
  exact ⟨_, _, readHeader_octets _ _⟩

theorem asksForAck_fillPacket (node : Node cfg) (packet : Packet) (id nodeId : UInt32) :
    asksForAck nodeId (node.fillPacket packet id) = asksForAck nodeId packet := rfl

theorem fillPacket_from {node : Node cfg} {packet : Packet} (id : UInt32)
    (named : localSource node.nodeId packet = true) (asks : asksForAck node.nodeId packet = true) :
    (node.fillPacket packet id).from_ = node.nodeId := by
  simp only [localSource, asks, Bool.not_true, Bool.false_or, Bool.or_eq_true, beq_iff_eq] at named
  simp only [Node.fillPacket]
  split_ifs with zero
  · rfl
  · exact named.resolve_left zero

theorem Node.Origin.localSource {node : Node cfg} {packet : Packet} {given : UInt32}
    (origin : node.Origin codec request packet given) (permitted : request.localSource node.nodeId = true) :
    Meshtastic.localSource node.nodeId packet = true := by
  cases origin with
  | send asked =>
    subst asked
    exact permitted
  | phone asked payload =>
    subst asked
    simpa only [Request.localSource, payload] using permitted
  | @inject mesh around data asked payload onward hops =>
    subst asked
    have named : Meshtastic.localSource node.nodeId (meshPbPacket mesh data) = true := by
      simpa [Request.localSource, payload, hops] using permitted
    exact named
  | ack heard toUs foreign =>
    -- an acknowledgement is a ROUTING packet, and those are not tracked
    simp [Meshtastic.localSource, asksForAck, meshPbPacket]
  | module unsent port => simp [Meshtastic.localSource, unsent.1]

/-- What the runs keep: frames to be acknowledged are local, and so are the pending ones. A board
whose hardware id is zero never gets past `meshtastic_init`. -/
structure Node.Local (board : Board) (node : Node cfg) : Prop where
  built : ∀ n packet key wire, ⟨n, .built packet key wire⟩ ∈ node.log →
    (∃ hdr enc, readHeader wire = some (hdr, enc) ∧ hdr.src = packet.from_) ∧
      (asksForAck n packet = true → packet.from_ = n)
  tracks : node.TracksLocal
  dead : board.nodeIdSource = .hwinfo (some 0) → node.initialized = false ∧ ∀ i, (node.entries i).id = 0

theorem Node.powerOn_local (board : Board) (table : ChannelTable) : (Node.powerOn cfg table).Local board where
  built := by
    intro n packet key wire member
    exact False.elim (List.not_mem_nil member)
  tracks := fun i waits => False.elim (waits rfl)
  dead := fun _ => ⟨rfl, fun _ => rfl⟩

theorem Node.Builds.local {node drawn : Node cfg} {packet : Packet} {key wire : Octets}
    (builds : node.Builds codec request packet key wire drawn) (permitted : request.localSource node.nodeId = true) :
    (∃ hdr enc, readHeader wire = some (hdr, enc) ∧ hdr.src = packet.from_) ∧
      (asksForAck node.nodeId packet = true → packet.from_ = node.nodeId) := by
  obtain ⟨asked, given, id, nodedb, origin, -, draws, filled, -, made⟩ := builds
  have nodeId : drawn.nodeId = node.nodeId := by
    have same := node.drawId_nodeId given
    rwa [draws] at same
  obtain ⟨hash, enc, parsed⟩ := buildWirePacket_header made
  refine ⟨⟨_, enc, parsed, rfl⟩, ?_⟩
  intro asks
  have named := origin.localSource permitted
  rw [filled, asksForAck_fillPacket] at asks
  rw [← nodeId] at asks named ⊢
  rw [filled]
  exact fillPacket_from id named asks

theorem reliableTrackable_asksForAck {nodeId : UInt32} {packet : Packet} {wire : Octets}
    (trackable : reliableTrackable nodeId packet wire = true) : asksForAck nodeId packet = true := by
  simp only [reliableTrackable, Bool.and_eq_true, decide_eq_true_eq] at trackable
  simp only [asksForAck, Bool.and_eq_true, bne_iff_ne]
  tauto

theorem Node.Local.tracks_kept {node next : Node cfg} (holds : node.Local board)
    (change : Node.Change codec board request node next) (same : next.nodeId = node.nodeId) : next.TracksLocal := by
  intro i waits
  rw [same]
  rcases change.entry_cases waits with ⟨id, -, -, wire⟩ | ⟨packet, key, wire, now, rand, made, -, trackable, stored⟩
  · rw [wire]
    exact holds.tracks i (id ▸ waits)
  · obtain ⟨⟨hdr, enc, parsed, src⟩, named⟩ := holds.built _ _ _ _ made
    rw [stored]
    exact ⟨hdr, enc, parsed, src.trans (named (reliableTrackable_asksForAck trackable))⟩

theorem Node.Local.dead_kept {node next : Node cfg} (holds : node.Local board)
    (change : Node.Change codec board request node next) (same : next.initialized = node.initialized)
    (zero : board.nodeIdSource = .hwinfo (some 0)) :
    next.initialized = false ∧ ∀ i, (next.entries i).id = 0 := by
  obtain ⟨asleep, free⟩ := holds.dead zero
  refine ⟨same.trans asleep, ?_⟩
  intro i
  by_contra waits
  rcases change.entry_cases waits with ⟨id, -⟩ | ⟨_, _, _, _, _, _, ready, _⟩
  · exact waits (id.trans (free i))
  · rw [asleep] at ready
    contradiction

theorem Node.Local.init {node next : Node cfg} {config : NodeConfig} {boot : Boot} {ret : Option Errno}
    (holds : node.Local board) (done : meshtasticInit board node config boot = some (ret, next)) :
    next.Local board := by
  have log := meshtasticInit_log done
  rcases meshtasticInit_cases done with same | ⟨nodeId, err, stored, same⟩ |
    ⟨nodeId, table, hopLimit, positive, stored, cleared⟩
  · exact same ▸ holds
  · -- the id is rejected: it stays what it was, or it is zero and the node has never run
    rw [same] at log ⊢
    refine ⟨log ▸ holds.built, ?_, holds.dead⟩
    unfold initNodeId at stored
    split at stored
    · simp at stored
    · cases stored
      exact holds.tracks
    · next derived source =>
      by_cases zero : derived = 0
      · subst zero
        intro i waits
        exact False.elim (waits ((holds.dead source).2 i))
      · simp [zero] at stored
  · have free : ∀ i, (next.entries i).id = 0 := by
      intro i
      rcases cleared with same | same
      · rw [same]
        rfl
      · rw [same]
        rfl
    refine ⟨log ▸ holds.built, fun i waits => False.elim (waits (free i)), ?_⟩
    intro zero
    rw [zero] at stored
    simp [initNodeId] at stored

theorem Node.Local.change {node next : Node cfg} (holds : node.Local board)
    (change : Node.Change codec board request node next) (permitted : request.localSource node.nodeId = true) :
    next.Local board := by
  rcases change.identity with ⟨nodeId, initialized, -⟩ | ⟨config, boot, ret, -, done⟩
  · refine ⟨?_, holds.tracks_kept change nodeId, holds.dead_kept change initialized⟩
    intro n packet key wire member
    rcases change.built_cases member with older | ⟨here, drawn, builds⟩
    · exact holds.built n packet key wire older
    · rw [here]
      exact builds.local permitted
  · exact holds.init done

/-- In every run in which the packets to be acknowledged have local sources, the node waits for
acknowledgements of its own packets only. -/
theorem tracked_frames_are_local (cfg : Kconfig) (codec : Codec) (board : Board) (table : ChannelTable)
    (requests : List (Request cfg)) (last : Node cfg)
    (permitted : Transition.Guarded (Node.step codec board)
      (fun node request => request.localSource node.nodeId = true) (Node.powerOn cfg table) requests)
    (whole : Transition.run (Node.step codec board) (Node.powerOn cfg table) requests = some last) :
    last.TracksLocal := by
  have holds : last.Local board := by
    refine Node.run_invariant (fun node => node.Local board) ?_ ?_ (Node.powerOn_local board table) permitted whole
    · intro start config boot ret next _ done holds
      exact holds.init done
    · intro request start node next allowed _ same change holds
      rw [← same] at allowed
      exact holds.change change allowed
  exact holds.tracks

end

theorem tracked_frames_are_local_greeting :
    ∃ last, Transition.run (Node.step (dataCodec fun _ _ _ => 0) plainBoard) (Node.powerOn smallKconfig coldTable)
        [.init plainNodeConfig plainBoot, .send { greeting with from_ := 0 } .forever plainAnswer] = some last ∧
      (∃ i, (last.entries i).id = 7) ∧ last.TracksLocal := by
  refine ⟨_, rfl, ⟨⟨0, by decide⟩, rfl⟩, ?_⟩
  exact tracked_frames_are_local smallKconfig (dataCodec fun _ _ _ => 0) plainBoard coldTable
    [.init plainNodeConfig plainBoot, .send { greeting with from_ := 0 } .forever plainAnswer] _ (by decide) rfl

def foreignDownlink : MeshPacket :=
  { from_ := 0x33, to_ := 0x22, id := 9, payload := .decoded { portnum := PORT_TEXT_MESSAGE, payload := [0x68] },
    hopLimit := 3, hopStart := 3, wantAck := true }

/-- The gateway sends the message on and waits for an acknowledgement that will go to node 0x33. -/
theorem tracked_foreign_downlink :
    ∃ last, Transition.run (Node.step (dataCodec fun _ _ _ => 0) plainBoard) (Node.powerOn smallKconfig coldTable)
        [.init plainNodeConfig plainBoot, .inject foreignDownlink plainAround] = some last ∧
      ¬last.TracksLocal := by
  refine ⟨_, rfl, ?_⟩
  intro tracks
  obtain ⟨hdr, enc, parsed, src⟩ := tracks ⟨0, by decide⟩ (by decide)
  cases parsed
  exact absurd src (by decide)

end Meshtastic
