import Meshtastic.NodeEffects

/-! A mesh seen from the air: every frame that was put on it, with how it came there. A node can
hear any frame that has ever been on the air, at any time, any number of times or never, so frames
are lost, delayed, repeated and reordered at will. -/

namespace Meshtastic
open Bytes

/-- A frame on the air: sent by an application, a phone, a module or the retry timer; an
acknowledgement `ack` of a packet `req` heard in another frame; that frame relayed; or a message
that MQTT has carried from that frame to another gateway. -/
inductive Flight where
  | sent (frame : Octets)
  | answered (frame : Octets) (ack req : Packet) (heard : Flight)
  | relayed (frame : Octets) (relayer : UInt32) (heard : Flight)
  | bridged (frame : Octets) (heard : Flight)
  deriving DecidableEq

def Flight.frame : Flight → Octets
  | sent frame => frame
  | answered frame _ _ _ => frame
  | relayed frame _ _ => frame
  | bridged frame _ => frame

/-- The flight a frame was relayed from, possibly over many nodes. -/
def Flight.origin : Flight → Flight
  | relayed _ _ heard => heard.origin
  | flight => flight

def Flight.relays : Flight → Nat
  | relayed _ _ heard => heard.relays + 1
  | _ => 0

def Flight.isRelayed : Flight → Bool
  | relayed _ _ _ => true
  | _ => false

def handedFrames (log : List Record) : List Octets :=
  log.filterMap fun record =>
    match record.effect with
    | .handed wire => some wire
    | _ => none

def ackOf (log : List Record) (frame : Octets) : Option Packet :=
  log.findSome? fun record =>
    match record.effect with
    | .built packet _ wire =>
      if wire = frame ∧ packet.portnum = PORT_ROUTING ∧ packet.viaMqtt = false then some packet else none
    | _ => none

/-- Nodes by name, and all frames that have been on the air, newest first. -/
structure Flood (cfg : Kconfig) (Name : Type) where
  nodes : Name → Node cfg
  air : List Flight

/-- What happens in the mesh: a call into one node's stack, a node that hears a frame, or a node that
gets from MQTT a message some gateway has made of a frame. -/
inductive Move (cfg : Kconfig) (Name : Type) where
  | act (who : Name) (request : Request cfg)
  | hear (who : Name) (heard : Flight) (rssi snr : Int) (around : Surroundings)
  | bridge (who : Name) (heard : Flight) (mesh : MeshPacket) (around : Surroundings)

def Request.isInput {cfg : Kconfig} : Request cfg → Bool
  | .receive _ _ _ _ => true
  | .inject _ _ => true
  | _ => false

def wantsAck (frame : Octets) : Bool :=
  match readHeader frame with
  | some (hdr, _) => flagsWantAck hdr.flags
  | none => false

section
variable {cfg : Kconfig} {Name : Type}

/-- The flights of a step that began with an empty log. -/
def Node.emissions (codec : Codec) (node : Node cfg) (request : Request cfg) (heard : Flight)
    (other : Octets → Flight) (next : Node cfg) : List Flight :=
  let label := fun frame =>
    match ackOf next.log frame, node.decodes codec request with
    | some ack, some req => .answered frame ack req heard
    | _, _ => other frame
  match node.relays codec request with
  | some frame => .relayed frame node.nodeId heard :: (handedFrames next.log.tail).map label
  | none => (handedFrames next.log).map label

def Flood.call [DecidableEq Name] (codec : Codec) (boards : Name → Board) (flood : Flood cfg Name) (who : Name)
    (request : Request cfg) (flights : Node cfg → Node cfg → List Flight) : Option (Flood cfg Name) :=
  ((flood.nodes who).cleared.step codec (boards who) request).map fun next =>
    { nodes := Function.update flood.nodes who next, air := flights (flood.nodes who).cleared next ++ flood.air }

/-- One move. Of a message that comes by MQTT only the wish for an acknowledgement is known to be that
of the frame. -/
def Flood.step [DecidableEq Name] (codec : Codec) (boards : Name → Board) (flood : Flood cfg Name) :
    Move cfg Name → Option (Flood cfg Name)
  | .act who request =>
    if request.isInput then none
    else flood.call codec boards who request fun _ next => (handedFrames next.log).map .sent
  | .hear who heard rssi snr around =>
    if heard ∈ flood.air then
      flood.call codec boards who (.receive heard.frame rssi snr around) fun node next =>
        node.emissions codec (.receive heard.frame rssi snr around) heard .sent next
    else none
  | .bridge who heard mesh around =>
    if heard ∈ flood.air ∧ mesh.wantAck = wantsAck heard.frame then
      flood.call codec boards who (.inject mesh around) fun node next =>
        node.emissions codec (.inject mesh around) heard (fun frame => .bridged frame heard) next
    else none

/-- Nodes that have just been switched on, and nothing on the air. -/
def Flood.quiet (cfg : Kconfig) (tables : Name → ChannelTable) : Flood cfg Name :=
  { nodes := fun who => Node.powerOn cfg (tables who), air := [] }

/-! ## What a step puts on the air -/

variable {codec : Codec} {board : Board} {request : Request cfg}

theorem mem_handedFrames {log : List Record} {wire : Octets} (member : wire ∈ handedFrames log) :
    ∃ record ∈ log, record.effect = .handed wire := by
  obtain ⟨record, present, handed⟩ := List.mem_filterMap.mp member
  refine ⟨record, present, ?_⟩
  cases effect : record.effect with
  | handed frame =>
    rw [effect] at handed
    rw [Option.some.inj handed]
  | _ =>
    rw [effect] at handed
    contradiction

theorem ackOf_eq_some {log : List Record} {frame : Octets} {ack : Packet} (found : ackOf log frame = some ack) :
    (∃ record ∈ log, ∃ key, record.effect = .built ack key frame) ∧ ack.portnum = PORT_ROUTING ∧
      ack.viaMqtt = false := by
  obtain ⟨record, present, matched⟩ := List.exists_of_findSome?_eq_some found
  cases effect : record.effect with
  | built packet key wire =>
    rw [effect] at matched
    simp only [Option.ite_none_right_eq_some] at matched
    obtain ⟨⟨same, port, plain⟩, here⟩ := matched
    cases here
    subst same
    exact ⟨⟨record, present, key, effect⟩, port, plain⟩
  | _ =>
    rw [effect] at matched
    contradiction

theorem Node.ackOf_effects {node next : Node cfg} {frame : Octets} {ack : Packet} (clean : node.log = [])
    (running : request.isAdmin = false) (taken : node.step codec board request = some next)
    (found : ackOf next.log frame = some ack) :
    (∃ key, node.Effects codec request (.built ack key frame)) ∧ ack.portnum = PORT_ROUTING ∧
      ack.viaMqtt = false := by
  obtain ⟨below, fine, log⟩ := Node.step_log clean running taken
  obtain ⟨⟨record, present, key, built⟩, port, plain⟩ := ackOf_eq_some found
  refine ⟨⟨key, ?_⟩, port, plain⟩
  rw [← built]
  apply fine
  rw [log] at present
  split at present
  · rcases List.mem_cons.mp present with here | below
    · rw [here] at built
      contradiction
    · exact below
  · exact present

/-- Every flight of a step is the relayed frame, an acknowledgement, or another frame of the request. -/
theorem Node.mem_emissions {node next : Node cfg} {heard flight : Flight} {other : Octets → Flight}
    (clean : node.log = []) (running : request.isAdmin = false)
    (taken : node.step codec board request = some next)
    (member : flight ∈ node.emissions codec request heard other next) :
    (∃ frame, node.relays codec request = some frame ∧ flight = .relayed frame node.nodeId heard) ∨
    (∃ frame ack req key, node.decodes codec request = some req ∧ ack.portnum = PORT_ROUTING ∧ ack.viaMqtt = false ∧
      node.Effects codec request (.built ack key frame) ∧ node.Effects codec request (.handed frame) ∧
      flight = .answered frame ack req heard) ∨
    ∃ frame, node.Effects codec request (.handed frame) ∧ flight = other frame := by
  obtain ⟨below, fine, log⟩ := Node.step_log clean running taken
  have labelled : ∀ frame ∈ handedFrames below, flight = (match ackOf next.log frame, node.decodes codec request with
      | some ack, some req => .answered frame ack req heard
      | _, _ => other frame) →
      (∃ frame ack req key, node.decodes codec request = some req ∧ ack.portnum = PORT_ROUTING ∧ ack.viaMqtt = false ∧
        node.Effects codec request (.built ack key frame) ∧ node.Effects codec request (.handed frame) ∧
        flight = .answered frame ack req heard) ∨
      ∃ frame, node.Effects codec request (.handed frame) ∧ flight = other frame := by
    intro frame inside label
    obtain ⟨record, present, handed⟩ := mem_handedFrames inside
    have effect := fine record present
    rw [handed] at effect
    split at label
    next ack req found decoded =>
      obtain ⟨⟨key, built⟩, port, plain⟩ := Node.ackOf_effects clean running taken found
      exact Or.inl ⟨frame, ack, req, key, decoded, port, plain, built, effect, label⟩
    next => exact Or.inr ⟨frame, effect, label⟩
  unfold emissions at member
  split at member
  next frame relayed =>
    rw [relayed] at log
    rcases List.mem_cons.mp member with here | later
    · exact Or.inl ⟨frame, relayed, here⟩
    · obtain ⟨wire, inside, label⟩ := List.mem_map.mp later
      rw [log] at inside
      exact Or.inr (labelled wire inside label.symm)
  next silent =>
    rw [silent] at log
    obtain ⟨wire, inside, label⟩ := List.mem_map.mp member
    rw [log] at inside
    exact Or.inr (labelled wire inside label.symm)

theorem handedFrames_cons (node : UInt32) (wire : Octets) (log : List Record) :
    handedFrames (⟨node, .handed wire⟩ :: log) = wire :: handedFrames log := rfl

theorem Node.emissions_frames {node next : Node cfg} {heard : Flight} {other : Octets → Flight}
    (named : ∀ frame, (other frame).frame = frame) (clean : node.log = []) (running : request.isAdmin = false)
    (taken : node.step codec board request = some next) :
    (node.emissions codec request heard other next).map Flight.frame = handedFrames next.log := by
  obtain ⟨below, -, log⟩ := Node.step_log clean running taken
  have labelled : ∀ (label : Octets → Flight), (∀ frame, (label frame).frame = frame) → ∀ frames : List Octets,
      (frames.map label).map Flight.frame = frames := by
    intro label same frames
    rw [List.map_map]
    exact List.map_id'' same frames
  unfold emissions
  cases relayed : node.relays codec request with
  | none =>
    apply labelled
    intro frame
    split
    · rfl
    · exact named frame
  | some wire =>
    simp only [relayed] at log
    rw [log, handedFrames_cons, List.map_cons, List.tail_cons, labelled]
    · rfl
    · intro frame
      split
      · rfl
      · exact named frame

/-! ## Relayed frames -/

/-- The frame differs from the original in the three bits of the hop limit only, which is lower by
`count`. -/
def Lowered (original frame : Octets) (count : Nat) : Prop :=
  ∃ before after, original[12]? = some before ∧ frame = original.set 12 after ∧
    after &&& ~~~FLAGS_HOP_LIMIT_MASK = before &&& ~~~FLAGS_HOP_LIMIT_MASK ∧
    (flagsHopLimit after).toNat + count = (flagsHopLimit before).toNat

private theorem relayFlags_small : ∀ i : Fin 256, flagsHopLimit (UInt8.ofNat i.val) ≠ 0 →
    relayFlags (UInt8.ofNat i.val) (flagsHopLimit (UInt8.ofNat i.val)) &&& ~~~FLAGS_HOP_LIMIT_MASK =
      UInt8.ofNat i.val &&& ~~~FLAGS_HOP_LIMIT_MASK ∧
    (flagsHopLimit (relayFlags (UInt8.ofNat i.val) (flagsHopLimit (UInt8.ofNat i.val)))).toNat + 1 =
      (flagsHopLimit (UInt8.ofNat i.val)).toNat := by
  decide +kernel

/-- Relaying takes one hop off and leaves the other flags alone. -/
theorem relayFlags_spec {flags : UInt8} (hops : flagsHopLimit flags ≠ 0) :
    relayFlags flags (flagsHopLimit flags) &&& ~~~FLAGS_HOP_LIMIT_MASK = flags &&& ~~~FLAGS_HOP_LIMIT_MASK ∧
      (flagsHopLimit (relayFlags flags (flagsHopLimit flags))).toNat + 1 = (flagsHopLimit flags).toNat := by
  have small := relayFlags_small ⟨flags.toNat, flags.toNat_lt⟩
  simp only [UInt8.ofNat_toNat] at small
  exact small hops

theorem readHeader_flags {frame enc : Octets} {hdr : WireHeader} (parsed : readHeader frame = some (hdr, enc)) :
    frame[12]? = some hdr.flags ∧ frame.length = HDR_LEN + enc.length := by
  unfold readHeader at parsed
  split at parsed
  · cases parsed
    refine ⟨rfl, ?_⟩
    simp only [List.length_cons, HDR_LEN]
    omega
  · contradiction

theorem Lowered.refl {frame : Octets} (long : HDR_LEN ≤ frame.length) : Lowered frame frame 0 := by
  have inside : 12 < frame.length := Nat.lt_of_lt_of_le (by decide) long
  exact ⟨frame[12], frame[12], List.getElem?_eq_getElem inside, (List.set_getElem_self inside).symm, rfl, rfl⟩

theorem Lowered.relay {original frame enc : Octets} {count : Nat} {hdr : WireHeader}
    (lowered : Lowered original frame count) (parsed : readHeader frame = some (hdr, enc))
    (hops : flagsHopLimit hdr.flags ≠ 0) :
    Lowered original (relayFrame frame hdr.flags (flagsHopLimit hdr.flags)) (count + 1) := by
  obtain ⟨before, after, stored, same, others, lower⟩ := lowered
  have inside : 12 < original.length := (List.getElem?_eq_some_iff.mp stored).1
  have flags : hdr.flags = after := by
    have read := (readHeader_flags parsed).1
    rw [same, List.getElem?_set_self inside] at read
    exact (Option.some.inj read).symm
  obtain ⟨kept, one⟩ := relayFlags_spec hops
  rw [flags] at kept one
  refine ⟨before, relayFlags after (flagsHopLimit after), stored, ?_, kept.trans others, ?_⟩
  · rw [flags, same, relayFrame, List.set_set]
  · omega

/-- What holds of every flight: it goes back to a frame that was put on the air otherwise, and whoever
relayed it last was allowed to. -/
structure Flight.Floods (air : List Flight) (flight : Flight) : Prop where
  present : flight.origin ∈ air
  length : HDR_LEN ≤ flight.origin.frame.length ∧ flight.origin.frame.length ≤ PKT_MAX
  lowered : Lowered flight.origin.frame flight.frame flight.relays
  chosen : ∀ frame relayer heard, flight = .relayed frame relayer heard →
    ∃ hdr enc, readHeader heard.frame = some (hdr, enc) ∧ hdr.src ≠ relayer ∧ hdr.dest ≠ relayer ∧
      flagsHopLimit hdr.flags ≠ 0 ∧ ¬(hdr.dest = NODE_BROADCAST ∧ hdr.id = 0)

theorem Flight.origin_isRelayed (flight : Flight) : flight.origin.isRelayed = false := by
  induction flight with
  | relayed frame relayer heard ih => exact ih
  | _ => rfl

theorem Flight.Floods.of_unrelayed {air : List Flight} {flight : Flight} (unrelayed : flight.isRelayed = false)
    (present : flight ∈ air) (length : HDR_LEN ≤ flight.frame.length ∧ flight.frame.length ≤ PKT_MAX) :
    flight.Floods air := by
  cases flight with
  | relayed frame relayer heard => contradiction
  | _ => exact ⟨present, length, Lowered.refl length.1, fun _ _ _ same => by contradiction⟩

theorem Flight.Floods.mono {air more : List Flight} {flight : Flight} (floods : flight.Floods air)
    (grows : air ⊆ more) : flight.Floods more :=
  ⟨grows floods.present, floods.length, floods.lowered, floods.chosen⟩

/-! ## Lengths -/

def Node.Framed (node : Node cfg) : Prop := ∀ i, (node.entries i).id ≠ 0 → HDR_LEN ≤ (node.entries i).wire.length

theorem buildWirePacket_length {t : ChannelTable} {nodedb : NodeDbGet} {packet : Packet} {wire : Octets}
    (made : buildWirePacket codec t nodedb packet = some (.ok wire)) : HDR_LEN ≤ wire.length := by
  obtain ⟨-, -, key, -, -, same⟩ := buildWirePacket_eq_ok made
  rw [same, List.length_append, WireHeader.octets_length]
  omega

structure Node.Measured (node : Node cfg) : Prop where
  built : ∀ n packet key wire, ⟨n, .built packet key wire⟩ ∈ node.log → HDR_LEN ≤ wire.length
  framed : node.Framed

theorem Node.Measured.change {node next : Node cfg} (measured : node.Measured)
    (change : Node.Change codec board request node next) : next.Measured where
  built := by
    intro n packet key wire member
    rcases change.built_cases member with older | ⟨-, drawn, _, _, _, _, _, _, _, _, _, made⟩
    · exact measured.built n packet key wire older
    · exact buildWirePacket_length made
  framed := by
    intro i waits
    rcases change.entry_cases waits with ⟨id, -, -, wire⟩ | ⟨packet, key, wire, _, _, made, -, -, stored⟩
    · rw [wire]
      exact measured.framed i (id ▸ waits)
    · rw [stored]
      exact measured.built _ packet key wire made

theorem Node.Framed.step {node next : Node cfg} (framed : node.Framed) (clean : node.log = [])
    (taken : node.step codec board request = some next) : next.Framed := by
  have start : node.Measured := by
    refine ⟨fun _ _ _ _ member => ?_, framed⟩
    rw [clean] at member
    exact False.elim (List.not_mem_nil member)
  have measured : next.Measured := by
    refine Node.step_invariant ?_ (fun _ _ _ _ change holds => holds.change change) start taken
    intro config boot ret after _ done holds
    refine ⟨fun n packet key wire member => holds.built n packet key wire (meshtasticInit_log done ▸ member), ?_⟩
    intro i waits
    have same := meshtasticInit_pending done waits
    rw [same] at waits ⊢
    exact holds.framed i waits
  exact measured.framed

theorem Node.EncryptedEffect.length {node : Node cfg} {mesh : MeshPacket} {enc wire : Octets}
    (fine : node.EncryptedEffect mesh enc (.handed wire)) : HDR_LEN ≤ wire.length ∧ wire.length ≤ PKT_MAX := by
  cases fine with
  | handed id hopLimit hopStart fits =>
    refine ⟨?_, fits⟩
    rw [List.length_append, WireHeader.octets_length]
    omega

theorem Node.SendEffect.length {node : Node cfg} {packet : Packet} {announced : Bool} {wire : Octets}
    (fine : node.SendEffect codec packet announced (.handed wire)) :
    HDR_LEN ≤ wire.length ∧ wire.length ≤ PKT_MAX := by
  cases fine with
  | handed sending => exact sending.length

theorem Node.MeshEffect.length {node : Node cfg} {mesh : MeshPacket} {wire : Octets}
    (fine : node.MeshEffect codec mesh (.handed wire)) : HDR_LEN ≤ wire.length ∧ wire.length ≤ PKT_MAX := by
  cases fine with
  | decoded payload fine => exact fine.length
  | encrypted payload fine => exact fine.length

theorem Node.Effects.length {node : Node cfg} {wire : Octets} (framed : node.Framed)
    (fine : node.Effects codec request (.handed wire)) : HDR_LEN ≤ wire.length ∧ wire.length ≤ PKT_MAX := by
  cases fine with
  | send asked fine => exact fine.length
  | phone asked fine => exact fine.length
  | inject asked fine => exact fine.length
  | handle heard fine =>
    cases fine with
    | ack toUs foreign asks fine => exact fine.length
    | module fine =>
      cases fine with
      | sent unsent port fine => exact fine.length
  | retry asked waits fits => exact ⟨framed _ waits, fits⟩

/-! ## Runs -/

section
variable [DecidableEq Name] {boards : Name → Board}

/-- What a move does: a node takes a step, and its flights join those on the air. -/
inductive Flood.Taken (codec : Codec) (boards : Name → Board) (flood : Flood cfg Name) :
    Move cfg Name → Flood cfg Name → Prop
  | act {who : Name} {request : Request cfg} {next : Node cfg} (act : request.isInput = false)
      (done : (flood.nodes who).cleared.step codec (boards who) request = some next) :
      Taken codec boards flood (.act who request)
        ⟨Function.update flood.nodes who next, (handedFrames next.log).map .sent ++ flood.air⟩
  | hear {who : Name} {heard : Flight} {rssi snr : Int} {around : Surroundings} {next : Node cfg}
      (audible : heard ∈ flood.air)
      (done : (flood.nodes who).cleared.step codec (boards who) (.receive heard.frame rssi snr around) = some next) :
      Taken codec boards flood (.hear who heard rssi snr around)
        ⟨Function.update flood.nodes who next,
          (flood.nodes who).cleared.emissions codec (.receive heard.frame rssi snr around) heard .sent next ++ flood.air⟩
  | bridge {who : Name} {heard : Flight} {mesh : MeshPacket} {around : Surroundings} {next : Node cfg}
      (audible : heard ∈ flood.air) (asks : mesh.wantAck = wantsAck heard.frame)
      (done : (flood.nodes who).cleared.step codec (boards who) (.inject mesh around) = some next) :
      Taken codec boards flood (.bridge who heard mesh around)
        ⟨Function.update flood.nodes who next,
          (flood.nodes who).cleared.emissions codec (.inject mesh around) heard (fun frame => .bridged frame heard) next ++
            flood.air⟩

theorem Flood.step_taken {flood after : Flood cfg Name} {move : Move cfg Name}
    (taken : flood.step codec boards move = some after) : Flood.Taken codec boards flood move after := by
  cases move with
  | act who request =>
    simp only [step] at taken
    split_ifs at taken with input
    obtain ⟨next, done, same⟩ := Option.map_eq_some_iff.mp taken
    rw [← same]
    exact .act (by simpa using input) done
  | hear who heard rssi snr around =>
    simp only [step] at taken
    split_ifs at taken with audible
    obtain ⟨next, done, same⟩ := Option.map_eq_some_iff.mp taken
    rw [← same]
    exact .hear audible done
  | bridge who heard mesh around =>
    simp only [step] at taken
    split_ifs at taken with carried
    obtain ⟨next, done, same⟩ := Option.map_eq_some_iff.mp taken
    rw [← same]
    exact .bridge carried.1 carried.2 done

theorem forall_update {nodes : Name → Node cfg} {property : Node cfg → Prop} {who : Name} {next : Node cfg}
    (old : ∀ other, property (nodes other)) (new : property next) :
    ∀ other, property (Function.update nodes who next other) := by
  intro other
  by_cases here : other = who
  · rw [here, Function.update_self]
    exact new
  · rw [Function.update_of_ne here]
    exact old other

/-- Frames on the air go back to frames that were originated, and pending frames have a header. -/
structure Flood.Lowers (flood : Flood cfg Name) : Prop where
  framed : ∀ who, (flood.nodes who).Framed
  floods : ∀ flight ∈ flood.air, flight.Floods flood.air

theorem Node.mem_handed_of_act {node next : Node cfg} {wire : Octets} (clean : node.log = [])
    (act : request.isInput = false) (taken : node.step codec board request = some next)
    (member : wire ∈ handedFrames next.log) : node.Effects codec request (.handed wire) := by
  by_cases admin : request.isAdmin = true
  · rw [Node.step_admin_log admin taken, clean] at member
    exact False.elim (List.not_mem_nil member)
  obtain ⟨below, fine, log⟩ := Node.step_log clean (by simpa using admin) taken
  have silent : node.relays codec request = none :=
    Node.relays_none (fun _ _ _ _ same => by subst same; contradiction)
  rw [silent] at log
  obtain ⟨record, present, handed⟩ := mem_handedFrames member
  rw [log] at present
  exact handed ▸ fine record present

theorem Node.floods_emissions {node next : Node cfg} {heard flight : Flight} {other : Octets → Flight}
    {air : List Flight} (clean : node.log = []) (framed : node.Framed) (running : request.isAdmin = false)
    (taken : node.step codec board request = some next)
    (unrelayed : ∀ frame, (other frame).isRelayed = false ∧ (other frame).frame = frame)
    (member : flight ∈ node.emissions codec request heard other next) (present : flight ∈ air) :
    flight.Floods air ∨
      ∃ frame, node.relays codec request = some frame ∧ flight = .relayed frame node.nodeId heard := by
  rcases Node.mem_emissions clean running taken member with relayed | answered | sent
  · exact Or.inr relayed
  · obtain ⟨frame, ack, req, key, -, -, -, -, handed, same⟩ := answered
    subst same
    exact Or.inl (Flight.Floods.of_unrelayed rfl present (handed.length framed))
  · obtain ⟨frame, handed, same⟩ := sent
    obtain ⟨root, whole⟩ := unrelayed frame
    rw [← same] at root whole
    exact Or.inl (Flight.Floods.of_unrelayed root present (whole ▸ handed.length framed))

theorem Flood.Lowers.step {flood after : Flood cfg Name} {move : Move cfg Name} (lowers : flood.Lowers)
    (taken : flood.step codec boards move = some after) : after.Lowers := by
  have mono : ∀ (new : List Flight) (flight : Flight), flight.Floods flood.air → flight.Floods (new ++ flood.air) :=
    fun new _ floods => floods.mono (List.subset_append_right new _)
  cases Flood.step_taken taken with
  | @act who request next act done =>
    have framed : (flood.nodes who).cleared.Framed := lowers.framed who
    refine ⟨forall_update lowers.framed (framed.step rfl done),
      List.forall_mem_append.mpr ⟨?_, fun flight old => mono _ flight (lowers.floods flight old)⟩⟩
    intro flight new
    have present := List.mem_append_left flood.air new
    obtain ⟨wire, handed, same⟩ := List.mem_map.mp new
    subst same
    exact Flight.Floods.of_unrelayed rfl present ((Node.mem_handed_of_act rfl act done handed).length framed)
  | @hear who heard rssi snr around next audible done =>
    have framed : (flood.nodes who).cleared.Framed := lowers.framed who
    refine ⟨forall_update lowers.framed (framed.step rfl done),
      List.forall_mem_append.mpr ⟨?_, fun flight old => mono _ flight (lowers.floods flight old)⟩⟩
    intro flight new
    rcases Node.floods_emissions rfl framed rfl done (fun _ => ⟨rfl, rfl⟩) new (List.mem_append_left flood.air new) with
      floods | ⟨frame, relayed, same⟩
    · exact floods
    obtain ⟨hdr, enc, parsed, src, dest, hops, named, lower⟩ := Node.relays_eq_some relayed
    have before := lowers.floods heard audible
    subst same
    refine ⟨List.mem_append_right _ before.present, before.length, ?_, ?_⟩
    · rw [lower]
      exact before.lowered.relay parsed hops
    · intro frame' relayer heard' same
      cases same
      exact ⟨hdr, enc, parsed, src, dest, hops, named⟩
  | @bridge who heard mesh around next audible asks done =>
    have framed : (flood.nodes who).cleared.Framed := lowers.framed who
    refine ⟨forall_update lowers.framed (framed.step rfl done),
      List.forall_mem_append.mpr ⟨?_, fun flight old => mono _ flight (lowers.floods flight old)⟩⟩
    intro flight new
    rcases Node.floods_emissions rfl framed rfl done (fun _ => ⟨rfl, rfl⟩) new (List.mem_append_left flood.air new) with
      floods | ⟨frame, relayed, same⟩
    · exact floods
    rw [Node.relays_none (by simp)] at relayed
    contradiction

/-- Flooding only ever lowers the hop limit: in every run, every frame on the air goes back over as many
relays as it has lost hops to a frame of 16 to 255 bytes that was not relayed, from which it differs in
the hop limit only; whoever relayed it was neither its source nor its destination, had a hop left to
take and had an id to know it by. All that a node hands to its radio when it hears a frame goes on the air, and
what is not marked as relayed there has the node itself for its source. -/
theorem flooding_lowers_hops (cfg : Kconfig) (codec : Codec) (boards : Name → Board) (tables : Name → ChannelTable)
    (moves : List (Move cfg Name)) (last : Flood cfg Name)
    (whole : Transition.run (Flood.step codec boards) (Flood.quiet cfg tables) moves = some last) :
    (∀ flight ∈ last.air,
      (flight.origin ∈ last.air ∧ flight.origin.isRelayed = false ∧ 16 ≤ flight.origin.frame.length ∧
        flight.origin.frame.length ≤ 255) ∧
      (∃ before after, flight.origin.frame[12]? = some before ∧ flight.frame = flight.origin.frame.set 12 after ∧
        after &&& ~~~FLAGS_HOP_LIMIT_MASK = before &&& ~~~FLAGS_HOP_LIMIT_MASK ∧
        (flagsHopLimit after).toNat + flight.relays = (flagsHopLimit before).toNat ∧
        flight.relays ≤ (flagsHopLimit before).toNat ∧ (flagsHopLimit before).toNat ≤ 7) ∧
      ∀ frame relayer heard, flight = .relayed frame relayer heard →
        ∃ hdr enc, readHeader heard.frame = some (hdr, enc) ∧ hdr.src ≠ relayer ∧ hdr.dest ≠ relayer ∧
          flagsHopLimit hdr.flags ≠ 0 ∧ ¬(hdr.dest = NODE_BROADCAST ∧ hdr.id = 0)) ∧
    ∀ who heard rssi snr around next, heard ∈ last.air →
      (last.nodes who).cleared.step codec (boards who) (.receive heard.frame rssi snr around) = some next →
      ∃ flights, last.step codec boards (.hear who heard rssi snr around) =
          some ⟨Function.update last.nodes who next, flights ++ last.air⟩ ∧
        flights.map Flight.frame = handedFrames next.log ∧
        ∀ flight ∈ flights, flight.isRelayed = false →
          SentBy (last.nodes who).nodeId flight.frame := by
  refine ⟨?_, ?_⟩
  swap
  · intro who heard rssi snr around next audible done
    refine ⟨(last.nodes who).cleared.emissions codec (.receive heard.frame rssi snr around) heard .sent next, ?_,
      Node.emissions_frames (fun _ => rfl) rfl rfl done, ?_⟩
    · simp only [Flood.step, if_pos audible, Flood.call, done, Option.map_some]
    · intro flight member unrelayed
      rcases Node.mem_emissions rfl rfl done member with ⟨frame, -, same⟩ |
        ⟨frame, ack, req, key, -, -, -, -, handed, same⟩ | ⟨frame, handed, same⟩
      · rw [same] at unrelayed
        contradiction
      · rw [same]
        exact handed.sentBy
      · rw [same]
        exact handed.sentBy
  have lowers : last.Lowers := by
    refine Transition.run_invariant (fun _ _ _ holds _ => holds.step) ?_ (Transition.guarded_true _ moves) whole
    exact ⟨fun _ _ waits => False.elim (waits rfl), fun _ member => False.elim (List.not_mem_nil member)⟩
  intro flight member
  obtain ⟨present, length, lowered, chosen⟩ := lowers.floods flight member
  refine ⟨⟨present, flight.origin_isRelayed, length⟩, ?_, chosen⟩
  obtain ⟨before, after, stored, same, others, lower⟩ := lowered
  have small := mask_lt before
  exact ⟨before, after, stored, same, others, lower, by omega, by unfold flagsHopLimit; omega⟩

end

end

/-! ## Values for examples -/

def pairBoards (second : Bool) : Board :=
  { nodeIdSource := .custom (if second then 0x22 else 0x11), defaultHopLimit := 3 }

def passingText : Octets :=
  WireHeader.octets { dest := 0x33, src := 0x11, id := 1, flags := 0x63, channel := 0x08, nextHop := 0, relayNode := 0 } ++
    [0x08, 0x01, 0x12, 0x02, 0x68, 0x69]

def passingMoves : List (Move smallKconfig Bool) :=
  [.act false (.init plainNodeConfig plainBoot), .act true (.init plainNodeConfig plainBoot),
    .act false (.send { to_ := 0x33, portnum := PORT_TEXT_MESSAGE, payload := [0x68, 0x69] } .forever plainAnswer),
    .hear true (.sent passingText) (-90) 6 plainAround, .hear true (.sent passingText) (-80) 7 plainAround]

theorem flooding_lowers_hops_oneRelay :
    ∃ last, Transition.run (Flood.step (dataCodec fun _ _ _ => 0) pairBoards)
        (Flood.quiet smallKconfig fun _ => coldTable) passingMoves = some last ∧
      last.air = [.relayed (passingText.set 12 0x62) 0x22 (.sent passingText), .sent passingText] ∧
      Flight.sent passingText ∈ last.air := by
  refine ⟨_, rfl, rfl, ?_⟩
  have each := (flooding_lowers_hops smallKconfig (dataCodec fun _ _ _ => 0) pairBoards (fun _ => coldTable) passingMoves
    _ rfl).1
  exact (each (.relayed (passingText.set 12 0x62) 0x22 (.sent passingText)) List.mem_cons_self).1.1

end Meshtastic
