import Meshtastic.NodeChange

/-! What a change leaves alone and what it can add to the log and to the table of pending packets,
and the rules that turn properties kept by changes into invariants of runs. -/

namespace Meshtastic
open Bytes Relation

section
variable {cfg : Kconfig} {codec : Codec} {board : Board} {request : Request cfg}

def Request.isInit : Request cfg → Bool
  | .init _ _ => true
  | _ => false

def Request.isAdmin : Request cfg → Bool
  | .init _ _ => true
  | .configure _ => true
  | _ => false

theorem Node.dispose_noted (node : Node cfg) (nodedb : NodeDbGet) (packet : Packet) (decoded : Bool) :
    node.Noted (node.dispose nodedb packet decoded) := by
  unfold dispose
  split_ifs
  · exact filterAndDeliver_noted node packet
  · exact (Node.Noted.refl node).note _

theorem Node.drawId_nodeId (node : Node cfg) (given : UInt32) : (node.drawId given).2.nodeId = node.nodeId := by
  obtain ⟨nextPktId, allocated, same⟩ := node.drawId_node given
  rw [same]

theorem Node.Change.identity {node next : Node cfg} (change : Node.Change codec board request node next) :
    (next.nodeId = node.nodeId ∧ next.initialized = node.initialized ∧
      (next.table = node.table ∨ ∃ settings, request = .configure settings)) ∨
    ∃ config boot ret, request = .init config boot ∧ meshtasticInit board node config boot = some (ret, next) := by
  cases change with
  | draw =>
    obtain ⟨nextPktId, allocated, same⟩ := node.drawId_node 0
    rw [node.allocatePacketId_eq] at same
    rw [same]
    exact Or.inl ⟨rfl, rfl, Or.inl rfl⟩
  | @build drawn _ given _ _ _ origin ready draws made =>
    obtain ⟨nextPktId, allocated, same⟩ := node.drawId_node given
    rw [draws] at same
    simp only at same
    rw [same]
    exact Or.inl ⟨rfl, rfl, Or.inl rfl⟩
  | hand source => exact Or.inl ⟨rfl, rfl, Or.inl rfl⟩
  | track answer made ready => exact Or.inl ⟨rfl, rfl, Or.inl rfl⟩
  | settle heard foreign =>
    obtain ⟨entries, newer, same⟩ := node.settle_noted codec _
    rw [same]
    exact Or.inl ⟨rfl, rfl, Or.inl rfl⟩
  | @accept _ _ _ _ around hdr packet decoded asked parsed decodes =>
    obtain ⟨newer, same⟩ := (node.dupAdd hdr.src hdr.id).dispose_noted around.nodedb packet decoded
    rw [same]
    exact Or.inl ⟨rfl, rfl, Or.inl rfl⟩
  | garbled asked parsed fails => exact Or.inl ⟨rfl, rfl, Or.inl rfl⟩
  | injectSeen asked => exact Or.inl ⟨rfl, rfl, Or.inl rfl⟩
  | injectDeliver packet asked =>
    obtain ⟨newer, same⟩ := filterAndDeliver_noted node packet
    rw [same]
    exact Or.inl ⟨rfl, rfl, Or.inl rfl⟩
  | note quiet => exact Or.inl ⟨rfl, rfl, Or.inl rfl⟩
  | work now rand => exact Or.inl ⟨rfl, rfl, Or.inl rfl⟩
  | init asked done => exact Or.inr ⟨_, _, _, asked, done⟩
  | configure asked => exact Or.inl ⟨rfl, rfl, Or.inr ⟨_, asked⟩⟩

def Effect.isBuilt : Effect → Bool
  | .built _ _ _ => true
  | _ => false

def Node.Builds (codec : Codec) (request : Request cfg) (node : Node cfg) (packet : Packet) (key wire : Octets)
    (drawn : Node cfg) : Prop :=
  ∃ asked given id nodedb, node.Origin codec request asked given ∧ node.initialized = true ∧
    node.drawId given = (id, drawn) ∧ packet = drawn.fillPacket asked id ∧
    key = wireKey drawn.table nodedb packet ∧ buildWirePacket codec drawn.table nodedb packet = some (.ok wire)

/-- No id was drawn and no frame was built. -/
structure Node.SameSends (node next : Node cfg) : Prop where
  nextPktId : next.nextPktId = node.nextPktId
  allocated : next.allocated = node.allocated
  built : ∀ n packet key wire, ⟨n, .built packet key wire⟩ ∈ next.log → ⟨n, .built packet key wire⟩ ∈ node.log

theorem Node.built_of_noted (node : Node cfg) {next : Node cfg} (noted : next.log = node.log ∨
    ∃ effect, effect.isBuilt = false ∧ next.log = ⟨node.nodeId, effect⟩ :: node.log) {n : UInt32} {packet : Packet}
    {key wire : Octets} (member : ⟨n, .built packet key wire⟩ ∈ next.log) :
    ⟨n, .built packet key wire⟩ ∈ node.log := by
  rcases noted with same | ⟨effect, other, same⟩
  · exact same ▸ member
  · rw [same, List.mem_cons] at member
    rcases member with here | older
    · cases here
      contradiction
    · exact older

theorem Node.settle_log (codec : Codec) (node : Node cfg) (packet : Packet) :
    (node.settle codec packet).log = node.log ∨
    ∃ i, ∃ report : ReliableReport, reliableRoutingSlot node.nodeId node.entries packet = some i ∧
      report.outcome = (node.entries i).outcome ∧ (node.settle codec packet).log =
        ⟨node.nodeId, .event report.type report.err (reliableEmitPacket node.nodeId report.outcome)⟩ :: node.log := by
  unfold settle reliableOnRouting
  cases found : reliableRoutingSlot node.nodeId node.entries packet with
  | none => exact Or.inl rfl
  | some i => exact Or.inr ⟨i, _, rfl, reliableRoutingReport_outcome codec packet _, rfl⟩

theorem filterAndDeliver_built (node : Node cfg) {other : Packet} {n : UInt32} {packet : Packet} {key wire : Octets}
    (member : ⟨n, .built packet key wire⟩ ∈ (filterAndDeliver node other).log) :
    ⟨n, .built packet key wire⟩ ∈ node.log := by
  unfold filterAndDeliver deliverPacket at member
  split_ifs at member
  · exact node.built_of_noted (Or.inr ⟨_, rfl, rfl⟩) member
  · have older := (node.note _).built_of_noted (Or.inr ⟨_, rfl, rfl⟩) member
    exact node.built_of_noted (Or.inr ⟨_, rfl, rfl⟩) older
  · exact member

theorem Node.drawId_log (node : Node cfg) (given : UInt32) : (node.drawId given).2.log = node.log := by
  obtain ⟨nextPktId, allocated, same⟩ := node.drawId_node given
  rw [same]

theorem Effect.quiet_not_built {effect : Effect} (quiet : effect.quiet = true) : effect.isBuilt = false := by
  cases effect with
  | built => contradiction
  | _ => rfl

theorem meshtasticInit_cases {board : Board} {node next : Node cfg} {config : NodeConfig} {boot : Boot}
    {ret : Option Errno} (done : meshtasticInit board node config boot = some (ret, next)) :
    next = node ∨
    (∃ nodeId err, initNodeId board.nodeIdSource node.nodeId config.nodeId = (nodeId, some err) ∧
      next = { node with nodeId := nodeId }) ∨
    ∃ nodeId table hopLimit positive, initNodeId board.nodeIdSource node.nodeId config.nodeId = (nodeId, none) ∧
      let cleared := { node with nodeId := nodeId }.reset table hopLimit positive
      (next = cleared ∨ next = { cleared with initialized := boot.failed.isNone }.configure boot.settings) := by
  unfold meshtasticInit at done
  by_cases ready : config.loraReady = false
  · rw [if_pos ready] at done
    cases done
    exact Or.inl rfl
  rw [if_neg ready] at done
  split at done
  next psk channelName _ _ =>
    by_cases refused : (psk.length ≠ 16 ∧ psk.length ≠ 32) ∨ config.frequency = 0
    · rw [if_pos refused] at done
      cases done
      exact Or.inl rfl
    rw [if_neg refused] at done
    split at done
    next nodeId err stored =>
      cases done
      exact Or.inr (Or.inl ⟨nodeId, err, stored, rfl⟩)
    next nodeId stored =>
      split at done
      next => contradiction
      next table _ =>
        refine Or.inr (Or.inr ⟨nodeId, table,
          if config.hopLimit = 0 then board.defaultHopLimit else config.hopLimit,
          Nat.lt_of_lt_of_le (by decide) cfg.dupCacheSize_range.1, stored, ?_⟩)
        simp only at done
        split at done
        · exact Or.inl (congrArg Prod.snd (Option.some.inj done)).symm
        · exact Or.inr (congrArg Prod.snd (Option.some.inj done)).symm
  next =>
    cases done
    exact Or.inl rfl

theorem meshtasticInit_pending {board : Board} {node next : Node cfg} {config : NodeConfig} {boot : Boot}
    {ret : Option Errno} (done : meshtasticInit board node config boot = some (ret, next)) {i : ReliableSlot cfg}
    (waits : (next.entries i).id ≠ 0) : next.entries i = node.entries i := by
  rcases meshtasticInit_cases done with same | ⟨nodeId, err, -, same⟩ |
    ⟨nodeId, table, hopLimit, positive, -, same | same⟩
  · rw [same]
  · rw [same]
  · rw [same] at waits
    exact False.elim (waits rfl)
  · rw [same] at waits
    exact False.elim (waits rfl)

theorem meshtasticInit_log {board : Board} {node next : Node cfg} {config : NodeConfig} {boot : Boot}
    {ret : Option Errno} (done : meshtasticInit board node config boot = some (ret, next)) : next.log = node.log := by
  rcases meshtasticInit_cases done with same | ⟨nodeId, err, -, same⟩ |
    ⟨nodeId, table, hopLimit, positive, -, same | same⟩
  · rw [same]
  · rw [same]
  · rw [same]
    rfl
  · rw [same]
    rfl

theorem Node.SameSends.note (node : Node cfg) {effect : Effect} (other : effect.isBuilt = false) :
    node.SameSends (node.note effect) where
  nextPktId := rfl
  allocated := rfl
  built := fun _ _ _ _ member => node.built_of_noted (Or.inr ⟨effect, other, rfl⟩) member

theorem filterAndDeliver_sameSends (node : Node cfg) (packet : Packet) :
    node.SameSends (filterAndDeliver node packet) := by
  obtain ⟨newer, same⟩ := filterAndDeliver_noted node packet
  exact ⟨by rw [same], by rw [same], fun _ _ _ _ member => filterAndDeliver_built node member⟩

theorem Node.Change.send_cases {node next : Node cfg} (change : Node.Change codec board request node next) :
    node.SameSends next ∨ next = node.allocatePacketId.2 ∨
    (∃ packet key wire drawn, node.Builds codec request packet key wire drawn ∧
      next = drawn.note (.built packet key wire)) ∨
    ∃ config boot ret, request = .init config boot ∧ meshtasticInit board node config boot = some (ret, next) := by
  have same : ∀ {after : Node cfg}, after.nextPktId = node.nextPktId → after.allocated = node.allocated →
      after.log = node.log → node.SameSends after :=
    fun nextPktId allocated log => ⟨nextPktId, allocated, fun _ _ _ _ member => log ▸ member⟩
  cases change with
  | draw => exact Or.inr (Or.inl rfl)
  | build origin ready draws made =>
    exact Or.inr (Or.inr (Or.inl ⟨_, _, _, _, ⟨_, _, _, _, origin, ready, draws, rfl, rfl, made⟩, rfl⟩))
  | hand source => exact Or.inl (SameSends.note node rfl)
  | track answer made ready => exact Or.inl (same rfl rfl rfl)
  | settle heard foreign =>
    obtain ⟨entries, newer, fields⟩ := node.settle_noted codec _
    refine Or.inl ⟨by rw [fields], by rw [fields], fun _ _ _ _ member => node.built_of_noted ?_ member⟩
    rcases node.settle_log codec _ with kept | ⟨i, report, -, -, reported⟩
    · exact Or.inl kept
    · exact Or.inr ⟨_, rfl, reported⟩
  | @accept _ _ _ _ around hdr packet decoded asked parsed decodes =>
    -- only the duplicate cache moves before the packet is disposed of
    have disposed : (node.dupAdd hdr.src hdr.id).SameSends
        ((node.dupAdd hdr.src hdr.id).dispose around.nodedb packet decoded) := by
      cases decoded with
      | false => exact SameSends.note _ rfl
      | true => exact filterAndDeliver_sameSends _ packet
    exact Or.inl ⟨disposed.nextPktId, disposed.allocated, disposed.built⟩
  | garbled asked parsed fails => exact Or.inl (same rfl rfl rfl)
  | injectSeen asked => exact Or.inl (same rfl rfl rfl)
  | injectDeliver packet asked => exact Or.inl (filterAndDeliver_sameSends node packet)
  | note quiet => exact Or.inl (SameSends.note node (Effect.quiet_not_built quiet))
  | work now rand => exact Or.inl (same rfl rfl rfl)
  | init asked done => exact Or.inr (Or.inr (Or.inr ⟨_, _, _, asked, done⟩))
  | configure asked => exact Or.inl (same rfl rfl rfl)

theorem Node.Change.built_cases {node next : Node cfg} (change : Node.Change codec board request node next)
    {n : UInt32} {packet : Packet} {key wire : Octets} (member : ⟨n, .built packet key wire⟩ ∈ next.log) :
    ⟨n, .built packet key wire⟩ ∈ node.log ∨
      (n = node.nodeId ∧ ∃ drawn, node.Builds codec request packet key wire drawn) := by
  rcases change.send_cases with same | drew | ⟨_, _, _, drawn, builds, same⟩ | ⟨_, _, _, -, done⟩
  · exact Or.inl (same.built _ _ _ _ member)
  · rw [drew, ← node.allocatePacketId_eq, node.drawId_log] at member
    exact Or.inl member
  · obtain ⟨_, given, _, _, _, _, draws, _⟩ := id builds
    have id := congrArg (fun pair => pair.2.nodeId) draws
    have log := congrArg (fun pair => pair.2.log) draws
    simp only [node.drawId_nodeId, node.drawId_log] at id log
    rw [same] at member
    rcases List.mem_cons.mp member with here | older
    · cases here
      exact Or.inr ⟨id.symm, drawn, builds⟩
    · rw [log]
      exact Or.inl older
  · rw [meshtasticInit_log done] at member
    exact Or.inl member

/-! ## The table of pending packets -/

/-- The entries agree on everything but the deadline and the remaining attempts. -/
def ReliableEntry.SameSend (entry other : ReliableEntry) : Prop :=
  entry.id = other.id ∧ entry.dest = other.dest ∧ entry.portnum = other.portnum ∧ entry.wire = other.wire

theorem reliableTrack_cases {entries : ReliableTable cfg} {nodeId : UInt32} {packet : Packet} {wire : Octets}
    (now : Int) (rand : UInt32) (i : ReliableSlot cfg) :
    reliableTrack nodeId entries packet wire now rand i = entries i ∨
      (reliableTrackable nodeId packet wire = true ∧
        reliableTrack nodeId entries packet wire now rand i = reliableEntryFor cfg packet wire now rand) := by
  unfold reliableTrack
  cases found : reliableTrackSlot nodeId entries packet wire with
  | none => exact Or.inl rfl
  | some slot =>
    by_cases here : i = slot
    · subst here
      exact Or.inr ⟨(reliableTrackSlot_eq_some found).1, Function.update_self _ _ _⟩
    · exact Or.inl (Function.update_of_ne here _ _)

theorem workEntry_sameSend {now : Int} {rand : UInt32} {entry : ReliableEntry}
    (waits : (workEntry cfg now rand entry).id ≠ 0) : (workEntry cfg now rand entry).SameSend entry := by
  unfold workEntry at waits ⊢
  cases action : workAction now entry with
  | idle => exact ⟨rfl, rfl, rfl, rfl⟩
  | expire =>
    rw [action] at waits
    exact False.elim (waits rfl)
  | retransmit => exact ⟨rfl, rfl, rfl, rfl⟩

theorem Node.settle_entries {node : Node cfg} {packet : Packet} {i : ReliableSlot cfg}
    (waits : ((node.settle codec packet).entries i).id ≠ 0) :
    (node.settle codec packet).entries i = node.entries i := by
  have entries : (node.settle codec packet).entries =
      (reliableOnRouting codec node.nodeId node.entries packet).1 := by
    unfold settle
    split
    next entries same => rw [same]
    next entries report same => rw [same]; rfl
  rw [entries] at waits ⊢
  unfold reliableOnRouting at waits ⊢
  cases found : reliableRoutingSlot node.nodeId node.entries packet with
  | none => rfl
  | some slot =>
    rw [found] at waits
    exact (reliableRelease_pending waits).2

theorem Node.drawId_entries (node : Node cfg) (given : UInt32) : (node.drawId given).2.entries = node.entries := by
  obtain ⟨nextPktId, allocated, same⟩ := node.drawId_node given
  rw [same]

theorem Node.Change.entry_cases {node next : Node cfg} (change : Node.Change codec board request node next)
    {i : ReliableSlot cfg} (waits : (next.entries i).id ≠ 0) :
    (next.entries i).SameSend (node.entries i) ∨
    ∃ packet key wire now rand, ⟨node.nodeId, .built packet key wire⟩ ∈ node.log ∧ node.initialized = true ∧
      reliableTrackable node.nodeId packet wire = true ∧
      next.entries i = reliableEntryFor cfg packet wire now rand := by
  have same : ∀ {entry : ReliableEntry}, entry.SameSend entry := ⟨rfl, rfl, rfl, rfl⟩
  cases change with
  | draw =>
    rw [← node.allocatePacketId_eq, node.drawId_entries]
    exact Or.inl same
  | build origin ready draws made =>
    have entries := congrArg (fun pair => pair.2.entries) draws
    simp only [node.drawId_entries] at entries
    apply Or.inl
    show (ReliableEntry.SameSend (Node.entries _ i) _)
    rw [entries]
    exact same
  | hand source => exact Or.inl same
  | @track packet key wire answer made ready =>
    rcases reliableTrack_cases answer.uptime answer.rand i with kept | ⟨trackable, stored⟩
    · apply Or.inl
      show ReliableEntry.SameSend (reliableTrack _ _ _ _ _ _ i) _
      rw [kept]
      exact same
    · exact Or.inr ⟨packet, key, wire, _, _, made, ready, trackable, stored⟩
  | settle heard foreign =>
    rw [settle_entries waits]
    exact Or.inl same
  | accept asked parsed decodes =>
    obtain ⟨newer, fields⟩ := Node.dispose_noted (node.dupAdd _ _) _ _ _
    rw [fields]
    exact Or.inl same
  | garbled asked parsed fails => exact Or.inl same
  | injectSeen asked => exact Or.inl same
  | injectDeliver packet asked =>
    obtain ⟨newer, fields⟩ := filterAndDeliver_noted node packet
    rw [fields]
    exact Or.inl same
  | note quiet => exact Or.inl same
  | work now rand => exact Or.inl (workEntry_sameSend waits)
  | init asked done =>
    rw [meshtasticInit_pending done waits]
    exact Or.inl same
  | configure asked => exact Or.inl same

/-! ## Rules -/

theorem Node.Noted.log {node next : Node cfg} (noted : node.Noted next) : ∃ newer, next.log = newer ++ node.log := by
  obtain ⟨newer, same⟩ := noted
  exact ⟨newer, by rw [same]⟩

theorem Node.Change.log_grows {node next : Node cfg} (change : Node.Change codec board request node next) :
    ∃ newer, next.log = newer ++ node.log := by
  cases change with
  | draw =>
    rw [← node.allocatePacketId_eq, node.drawId_log]
    exact ⟨[], rfl⟩
  | build origin ready draws made =>
    have log := congrArg (fun pair => pair.2.log) draws
    simp only [node.drawId_log] at log
    rw [log]
    exact ⟨[_], rfl⟩
  | hand source => exact ⟨[_], rfl⟩
  | track answer made ready => exact ⟨[], rfl⟩
  | settle heard foreign =>
    obtain ⟨entries, noted⟩ := node.settle_noted codec _
    exact noted.log
  | @accept _ _ _ _ around hdr packet decoded asked parsed decodes =>
    exact ((node.dupAdd hdr.src hdr.id).dispose_noted around.nodedb packet decoded).log
  | garbled asked parsed fails => exact ⟨[], rfl⟩
  | injectSeen asked => exact ⟨[], rfl⟩
  | injectDeliver packet asked => exact (filterAndDeliver_noted node packet).log
  | note quiet => exact ⟨[_], rfl⟩
  | work now rand => exact ⟨[], rfl⟩
  | init asked done =>
    rw [meshtasticInit_log done]
    exact ⟨[], rfl⟩
  | configure asked => exact ⟨[], rfl⟩

/-- Step rule: what `meshtastic_init` establishes and every other change keeps, as long as the node id
is the one the step began with, holds after the step. -/
theorem Node.step_invariant {invariant : Node cfg → Prop} {start last : Node cfg}
    (booted : ∀ config boot ret next, request = .init config boot →
      meshtasticInit board start config boot = some (ret, next) → invariant start → invariant next)
    (kept : ∀ node next, request.isInit = false → node.nodeId = start.nodeId →
      Node.Change codec board request node next → invariant node → invariant next)
    (before : invariant start) (taken : start.step codec board request = some last) : invariant last := by
  by_cases running : request.isInit = false
  · have both : invariant last ∧ last.nodeId = start.nodeId := by
      refine Transition.chain_invariant (fun node => invariant node ∧ node.nodeId = start.nodeId) ?_
        (Node.step_chain taken) ⟨before, rfl⟩
      intro node next change holds
      refine ⟨kept node next running holds.2 change holds.1, ?_⟩
      rcases change.identity with ⟨same, -⟩ | ⟨config, boot, ret, asked, -⟩
      · exact same.trans holds.2
      · subst asked
        contradiction
    exact both.1
  · cases request with
    | init config boot =>
      obtain ⟨⟨ret, after⟩, done, same⟩ := Option.map_eq_some_iff.mp taken
      cases same
      exact booted config boot ret after rfl done before
    | _ => exact False.elim (running rfl)

theorem Node.step_identity {start last : Node cfg} (running : request.isAdmin = false)
    (taken : start.step codec board request = some last) :
    last.nodeId = start.nodeId ∧ last.table = start.table := by
  refine Transition.chain_invariant (fun node => node.nodeId = start.nodeId ∧ node.table = start.table) ?_
    (Node.step_chain taken) ⟨rfl, rfl⟩
  intro node next change same
  rcases change.identity with ⟨id, -, table | ⟨settings, asked⟩⟩ | ⟨config, boot, ret, asked, -⟩
  · exact ⟨id.trans same.1, table.trans same.2⟩
  · subst asked
    contradiction
  · subst asked
    contradiction

/-- Run rule for nodes. -/
theorem Node.run_invariant (invariant : Node cfg → Prop) {allowed : Node cfg → Request cfg → Prop}
    (booted : ∀ start config boot ret next, allowed start (.init config boot) →
      meshtasticInit board start config boot = some (ret, next) → invariant start → invariant next)
    (kept : ∀ request start node next, allowed start request → request.isInit = false →
      node.nodeId = start.nodeId → Node.Change codec board request node next → invariant node → invariant next)
    {start last : Node cfg} {requests : List (Request cfg)} (before : invariant start)
    (guarded : Transition.Guarded (Node.step codec board) allowed start requests)
    (whole : Transition.run (Node.step codec board) start requests = some last) : invariant last := by
  refine Transition.run_invariant ?_ before guarded whole
  intro state request next holds permitted taken
  refine Node.step_invariant ?_ (fun node after => kept request state node after permitted) holds taken
  intro config boot ret after asked
  subst asked
  exact booted state config boot ret after permitted

end

end Meshtastic
