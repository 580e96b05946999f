import Meshtastic.NodeinfoLimits

/-! What a request costs that gets no reply. The four modules that limit their replies write down the time
before they build one: a request without a fix, without sensors, or with a message that is too long is
counted like one that was answered, and the next one is suppressed. -/

namespace Meshtastic
open Bytes

/-- The modules that answer requests and limit how often. -/
inductive ReplyModule where
  | position
  | deviceTelemetry
  | environmentTelemetry
  | nodeinfo
  deriving DecidableEq

/-- A row of a suppression table: of whom, whether a time is on record, and which. -/
abbrev SuppressionRow := UInt32 × Bool × Int

def TelemetryPeer.row (peer : TelemetryPeer) : SuppressionRow := (peer.from_, peer.replyTimeValid, peer.lastReplyMs)
def NodeinfoPeer.row (peer : NodeinfoPeer) : SuppressionRow := (peer.node, peer.replyTimeValid, peer.lastReplyMs)

def SuppressionRow.time (row : SuppressionRow) : Option Int := if row.2.1 then some row.2.2 else none

namespace ReplyModule

section
variable {mod : ModuleKconfig}

def allocReply (m : ReplyModule) (outside : ModuleOutside) (nodeId : UInt32) (state : ModuleState mod) (req : Packet) :
    ModuleState mod × Except Errno ModulePacket :=
  match m with
  | position => positionAllocReply outside nodeId state req
  | deviceTelemetry => deviceTelemetryAllocReply outside nodeId state req
  | environmentTelemetry => environmentTelemetryAllocReply outside nodeId state req
  | nodeinfo => nodeinfoAllocReply outside nodeId state req

/-- The suppression state of a module. Position has one row for all nodes. -/
def suppression (m : ReplyModule) (state : ModuleState mod) : List SuppressionRow :=
  match m with
  | position => [(0, state.positionReplyValid, state.positionLastReplyMs)]
  | deviceTelemetry => List.ofFn fun i => (state.devicePeers i).row
  | environmentTelemetry => List.ofFn fun i => (state.environmentPeers i).row
  | nodeinfo => List.ofFn fun i => (state.nodeinfoPeers i).row

/-- The row a request of a node is checked against. The NodeInfo table is looked up at some time; its rows do
not depend on it. -/
def found (m : ReplyModule) (state : ModuleState mod) (node : UInt32) : SuppressionRow :=
  match m with
  | position => (0, state.positionReplyValid, state.positionLastReplyMs)
  | deviceTelemetry => (telemetryPeerGet state.devicePeers node).2.row
  | environmentTelemetry => (telemetryPeerGet state.environmentPeers node).2.row
  | nodeinfo => (state.nodeinfoPeer node 0).2.row

def time (m : ReplyModule) (outside : ModuleOutside) : Int :=
  match m with
  | position => outside.positionAt
  | deviceTelemetry => outside.deviceAt
  | environmentTelemetry => outside.environmentAt
  | nodeinfo => outside.nodeinfoAt

def windowMs (m : ReplyModule) (mod : ModuleKconfig) : Int :=
  match m with
  | position => mod.gnssReplySuppressSec * MSEC_PER_SEC
  | deviceTelemetry => mod.telemetryReplySuppressSec * MSEC_PER_SEC
  | environmentTelemetry => mod.telemetryReplySuppressSec * MSEC_PER_SEC
  | nodeinfo => mod.nodeinfoReplySuppressSec * MSEC_PER_SEC

/-- The checks of a request that come before the window. -/
def accepts (m : ReplyModule) (outside : ModuleOutside) (nodeId : UInt32) (req : Packet) : Bool :=
  !strangeSource nodeId req &&
    match m with
    | position => true
    | deviceTelemetry => (telemetryDecodeRequest outside.decodeTelemetry req).any
        fun variant => variant = .deviceMetrics || variant = .unset
    | environmentTelemetry => (telemetryDecodeRequest outside.decodeTelemetry req).any
        fun variant => variant = .environmentMetrics
    | nodeinfo => true

def limits (m : ReplyModule) (outside : ModuleOutside) (state : ModuleState mod) (node : UInt32) : Bool :=
  (m.found state node).time.any fun last => m.time outside - last < m.windowMs mod

def message (m : ReplyModule) (outside : ModuleOutside) : Option Octets :=
  match m with
  | position => outside.fix
  | deviceTelemetry => outside.deviceMetrics.toOption
  | environmentTelemetry => outside.environment.toOption
  | nodeinfo => some outside.user

def CanBuild (m : ReplyModule) (outside : ModuleOutside) : Prop :=
  ∃ message, m.message outside = some message ∧ message.length ≤ MAX_PAYLOAD_LEN

/-- An accepted request outside the window ends with an error. -/
def NoReplyBuilt (m : ReplyModule) (outside : ModuleOutside) (nodeId : UInt32) (state : ModuleState mod)
    (req : Packet) : Prop :=
  m.accepts outside nodeId req = true ∧ m.limits outside state req.from_ = false ∧
    ∃ err, (m.allocReply outside nodeId state req).2 = .error err

/-- The reply can be built if it comes to that, or the time on record is this very millisecond. -/
def Spares (m : ReplyModule) (outside : ModuleOutside) (nodeId : UInt32) (state : ModuleState mod)
    (req : Packet) : Prop :=
  m.accepts outside nodeId req = true → m.limits outside state req.from_ = false →
    m.CanBuild outside ∨ (m.found state req.from_).time = some (m.time outside)

end

end ReplyModule

/-! ## Tables -/

theorem intervalElapsed_row (row : SuppressionRow) (now interval : Int) :
    intervalElapsed row.2.1 row.2.2 now interval = !(row.time.any fun last => now - last < interval) := by
  obtain ⟨node, valid, last⟩ := row
  cases valid with
  | false => rfl
  | true =>
    simp only [intervalElapsed, SuppressionRow.time, Bool.not_true, Bool.false_or, if_true, Option.any_some,
      ← decide_not, Int.not_lt]

section
variable {size : Nat} {Peer : Type} (row : Peer → SuppressionRow) (peers : Fin size → Peer) (place : Fin size)
  (entry : Peer)

theorem rows_update_mem {one : SuppressionRow}
    (member : one ∈ List.ofFn fun i => row (Function.update peers place entry i)) :
    one = row entry ∨ one ∈ List.ofFn fun i => row (peers i) := by
  obtain ⟨i, same⟩ := List.mem_ofFn.mp member
  by_cases here : i = place
  · rw [here, Function.update_self] at same
    exact Or.inl same.symm
  · rw [Function.update_of_ne here] at same
    exact Or.inr (List.mem_ofFn.mpr ⟨i, same⟩)

theorem rows_update_eq :
    (List.ofFn fun i => row (Function.update peers place entry i)) = (List.ofFn fun i => row (peers i)) ↔
      row entry = row (peers place) := by
  constructor
  · intro same
    have atPlace := congrFun (List.ofFn_injective same) place
    rwa [Function.update_self] at atPlace
  · intro same
    congr 1
    funext i
    by_cases here : i = place
    · rw [here, Function.update_self, same]
    · rw [Function.update_of_ne here]

end

/-- The row that is found is the one in its place, or there is no time on record and the place is free or
another node's. -/
def FoundAt (found place : SuppressionRow) : Prop :=
  found = place ∨ (found.2.1 = false ∧ (place.2.1 = false ∨ place.1 ≠ found.1))

theorem FoundAt.same {found place : SuppressionRow} (at_ : FoundAt found place) {last : Int}
    (recorded : found.time = some last) : found = place ∧ found = (found.1, true, last) := by
  obtain ⟨node, valid, time⟩ := found
  cases valid with
  | false => cases recorded
  | true =>
    cases recorded
    exact ⟨at_.resolve_right fun missing => Bool.noConfusion missing.1, rfl⟩

theorem FoundAt.written_iff {found place : SuppressionRow} (at_ : FoundAt found place) (now : Int) :
    (found.1, true, now) = place ↔ found.time = some now := by
  constructor
  · intro written
    cases at_ with
    | inl same =>
      rw [same, ← written]
      rfl
    | inr missing =>
      rw [← written] at missing
      cases missing.2 with
      | inl free => cases free
      | inr other => exact absurd rfl other
  · intro recorded
    obtain ⟨same, row⟩ := at_.same recorded
    rw [← same]
    exact row.symm

theorem telemetryPeerFind_at (peers : Fin TELEMETRY_PEER_SLOTS → TelemetryPeer) (from_ : UInt32)
    (rest : List (Fin TELEMETRY_PEER_SLOTS)) (oldest : Fin TELEMETRY_PEER_SLOTS) (oldestMs : Int)
    (foreign : oldest ∈ rest ∨ (peers oldest).from_ ≠ from_) :
    (telemetryPeerFind peers from_ rest oldest oldestMs).2.from_ = from_ ∧
      FoundAt (telemetryPeerFind peers from_ rest oldest oldestMs).2.row
        (peers (telemetryPeerFind peers from_ rest oldest oldestMs).1).row := by
  induction rest generalizing oldest oldestMs with
  | nil => exact ⟨rfl, Or.inr ⟨rfl, Or.inr (foreign.resolve_left List.not_mem_nil)⟩⟩
  | cons i rest ih =>
    unfold telemetryPeerFind
    by_cases mine : (peers i).from_ = from_
    · simp only [if_pos mine]
      exact ⟨mine, Or.inl rfl⟩
    by_cases free : (peers i).replyTimeValid = false
    · simp only [if_neg mine, if_pos free]
      exact ⟨trivial, Or.inr ⟨rfl, Or.inl free⟩⟩
    simp only [if_neg mine, if_neg free]
    split_ifs
    · exact ih i _ (Or.inr mine)
    · apply ih
      cases foreign with
      | inr other => exact Or.inr other
      | inl member =>
        cases List.mem_cons.mp member with
        | inl here => exact Or.inr (here ▸ mine)
        | inr later => exact Or.inl later

theorem telemetryPeerGet_at (peers : Fin TELEMETRY_PEER_SLOTS → TelemetryPeer) (from_ : UInt32) :
    (telemetryPeerGet peers from_).2.from_ = from_ ∧
      FoundAt (telemetryPeerGet peers from_).2.row (peers (telemetryPeerGet peers from_).1).row :=
  telemetryPeerFind_at peers from_ _ _ _ (Or.inl (List.mem_finRange _))

section
variable {mod : ModuleKconfig} {nodeId : UInt32}

theorem nodeinfoPeer_at (state : ModuleState mod) {node : UInt32} (given : node ≠ 0) (now : Int) :
    (state.nodeinfoPeer node now).2.row = (state.nodeinfoPeer node 0).2.row ∧
      (state.nodeinfoPeer node now).2.node = node ∧
      FoundAt (state.nodeinfoPeer node now).2.row (state.nodeinfoPeers (state.nodeinfoPeer node now).1).row := by
  have positive : 0 < mod.nodeinfoPeerCacheSize := Nat.lt_of_lt_of_le (by decide) mod.nodeinfoPeerCacheSize_range.1
  have ends := nodeinfoPeerFind_ends state.nodeinfoPeers node (List.finRange _) ⟨0, positive⟩
  unfold ModuleState.nodeinfoPeer nodeinfoPeerGet
  generalize nodeinfoPeerFind state.nodeinfoPeers node (List.finRange _) ⟨0, positive⟩ = found at *
  obtain ⟨i, known⟩ := found
  cases known with
  | true =>
    have mine : (state.nodeinfoPeers i).node = node := by
      cases ends with
      | inl hit => exact hit.2
      | inr missing =>
        cases missing with
        | inl free => cases free.1
        | inr full => cases full.1
    exact ⟨rfl, mine, Or.inl rfl⟩
  | false =>
    refine ⟨rfl, rfl, Or.inr ⟨rfl, Or.inr ?_⟩⟩
    show (state.nodeinfoPeers i).node ≠ node
    cases ends with
    | inl hit => cases hit.1
    | inr missing =>
      cases missing with
      | inl free => exact fun same => given (same.symm.trans free.2.1)
      | inr full => exact (full.2.1 i (List.mem_finRange i)).1

/-! ## What a request does to the rows -/

namespace ReplyModule

def rowNode (m : ReplyModule) (node : UInt32) : UInt32 := if m = .position then 0 else node

/-- What a handler does with the rows of its module and when it replies. -/
structure Budgeted (m : ReplyModule) (outside : ModuleOutside) (nodeId : UInt32) (state : ModuleState mod)
    (req : Packet) : Prop where
  refused : m.accepts outside nodeId req = false → (m.allocReply outside nodeId state req).1 = state
  limited : m.accepts outside nodeId req = true → m.limits outside state req.from_ = true →
    m.suppression (m.allocReply outside nodeId state req).1 = m.suppression state
  charged : m.accepts outside nodeId req = true → m.limits outside state req.from_ = false →
    (m.suppression (m.allocReply outside nodeId state req).1 = m.suppression state ↔
      (m.found state req.from_).time = some (m.time outside)) ∧
    (∀ row ∈ m.suppression (m.allocReply outside nodeId state req).1,
      row = (m.rowNode req.from_, true, m.time outside) ∨ row ∈ m.suppression state) ∧
    ((∃ reply, (m.allocReply outside nodeId state req).2 = .ok reply) ↔ m.CanBuild outside)

theorem encodePayload_builds {Made : Type} (message : Octets) (pack : Octets → Made) :
    (∃ reply, (encodePayload message).map pack = .ok reply) ↔ message.length ≤ MAX_PAYLOAD_LEN := by
  unfold encodePayload
  split_ifs with long
  · exact iff_of_false nofun (Nat.not_le.mpr long)
  · exact iff_of_true ⟨_, rfl⟩ (Nat.not_lt.mp long)

theorem position_budgeted (outside : ModuleOutside) (state : ModuleState mod) (req : Packet) :
    position.Budgeted outside nodeId state req := by
  have elapsed := intervalElapsed_row (0, state.positionReplyValid, state.positionLastReplyMs) outside.positionAt
    (mod.gnssReplySuppressSec * MSEC_PER_SEC)
  have accepts : position.accepts outside nodeId req = !strangeSource nodeId req := Bool.and_true _
  have at_ : FoundAt (position.found state req.from_) (position.found state req.from_) := Or.inl rfl
  constructor
  · intro refused
    rw [accepts, Bool.not_eq_false'] at refused
    simp only [allocReply, positionAllocReply, refused, if_true]
  · intro accepted limits
    rw [accepts, Bool.not_eq_true'] at accepted
    have early : intervalElapsed state.positionReplyValid state.positionLastReplyMs outside.positionAt
        (mod.gnssReplySuppressSec * MSEC_PER_SEC) = false := elapsed.trans (congrArg not limits)
    simp only [allocReply, positionAllocReply, accepted, early, Bool.false_eq_true, if_false]
  · intro accepted limits
    rw [accepts, Bool.not_eq_true'] at accepted
    have late : intervalElapsed state.positionReplyValid state.positionLastReplyMs outside.positionAt
        (mod.gnssReplySuppressSec * MSEC_PER_SEC) = true := elapsed.trans (congrArg not limits)
    simp only [allocReply, positionAllocReply, accepted, late, Bool.false_eq_true, if_false, if_true]
    refine ⟨?_, ?_, ?_⟩
    · rw [← at_.written_iff (position.time outside)]
      exact List.singleton_inj
    · intro row member
      exact Or.inl (List.mem_singleton.mp member)
    · unfold positionBuildPacket CanBuild message
      cases outside.fix with
      | none => simp
      | some fix =>
        simp only [Option.map_some, Option.getD_some, Option.some.injEq, exists_eq_left']
        exact encodePayload_builds fix _

end ReplyModule

def telemetryRows (peers : Fin TELEMETRY_PEER_SLOTS → TelemetryPeer) : List SuppressionRow :=
  List.ofFn fun i => (peers i).row

section
variable {acceptable : TelemetryVariant → Bool} {decode : Octets → Option TelemetryVariant} {intervalMs nowMs : Int}
  {collected : Except Errno Octets} {peers : Fin TELEMETRY_PEER_SLOTS → TelemetryPeer} {req : Packet}

theorem telemetryAllocReply_refused
    (refused : (!strangeSource nodeId req && (telemetryDecodeRequest decode req).any acceptable) = false) :
    (telemetryAllocReply acceptable decode intervalMs nowMs collected nodeId peers req).1 = peers := by
  unfold telemetryAllocReply
  split_ifs with strange
  · rfl
  · rw [Bool.not_eq_true] at strange
    rw [strange, Bool.not_false, Bool.true_and] at refused
    cases decoded : telemetryDecodeRequest decode req with
    | none => rfl
    | some variant =>
      rw [decoded] at refused
      simp only [show acceptable variant = false from refused, if_true]

theorem telemetryAllocReply_accepted
    (accepted : (!strangeSource nodeId req && (telemetryDecodeRequest decode req).any acceptable) = true) :
    telemetryAllocReply acceptable decode intervalMs nowMs collected nodeId peers req =
      let (i, peer) := telemetryPeerGet peers req.from_
      if intervalElapsed peer.replyTimeValid peer.lastReplyMs nowMs intervalMs then
        (Function.update peers i { peer with replyTimeValid := true, lastReplyMs := nowMs },
          match collected with
          | .error err => .error err
          | .ok telemetry => telemetryEncodePacket req.from_ req.channel req.id telemetry)
      else (Function.update peers i peer, .error .enoent) := by
  rw [Bool.and_eq_true, Bool.not_eq_true'] at accepted
  unfold telemetryAllocReply
  rw [if_neg (by rw [accepted.1]; exact Bool.false_ne_true)]
  cases decoded : telemetryDecodeRequest decode req with
  | none =>
    rw [decoded] at accepted
    cases accepted.2
  | some variant =>
    rw [decoded] at accepted
    have fine : acceptable variant = true := accepted.2
    have passes : ¬acceptable variant = false := by simp [fine]
    exact if_neg passes

theorem telemetryAllocReply_limited
    (accepted : (!strangeSource nodeId req && (telemetryDecodeRequest decode req).any acceptable) = true)
    (limited : ((telemetryPeerGet peers req.from_).2.row.time.any fun last => nowMs - last < intervalMs) = true) :
    telemetryRows (telemetryAllocReply acceptable decode intervalMs nowMs collected nodeId peers req).1 =
      telemetryRows peers := by
  obtain ⟨last, recorded, -⟩ := (Option.any_eq_true _ _).mp limited
  have at_ := (telemetryPeerGet_at peers req.from_).2
  have early := (intervalElapsed_row (telemetryPeerGet peers req.from_).2.row nowMs intervalMs).trans
    (congrArg not limited)
  rw [telemetryAllocReply_accepted accepted]
  generalize telemetryPeerGet peers req.from_ = found at *
  obtain ⟨i, peer⟩ := found
  simp only [show intervalElapsed peer.replyTimeValid peer.lastReplyMs nowMs intervalMs = false from early,
    Bool.false_eq_true, if_false]
  exact (rows_update_eq TelemetryPeer.row peers i peer).mpr (at_.same recorded).1

theorem telemetryAllocReply_charged
    (accepted : (!strangeSource nodeId req && (telemetryDecodeRequest decode req).any acceptable) = true)
    (free : ((telemetryPeerGet peers req.from_).2.row.time.any fun last => nowMs - last < intervalMs) = false) :
    (telemetryRows (telemetryAllocReply acceptable decode intervalMs nowMs collected nodeId peers req).1 =
        telemetryRows peers ↔ (telemetryPeerGet peers req.from_).2.row.time = some nowMs) ∧
    (∀ row ∈ telemetryRows (telemetryAllocReply acceptable decode intervalMs nowMs collected nodeId peers req).1,
      row = (req.from_, true, nowMs) ∨ row ∈ telemetryRows peers) ∧
    ((∃ reply, (telemetryAllocReply acceptable decode intervalMs nowMs collected nodeId peers req).2 = .ok reply) ↔
      ∃ message, collected.toOption = some message ∧ message.length ≤ MAX_PAYLOAD_LEN) := by
  obtain ⟨named, at_⟩ := telemetryPeerGet_at peers req.from_
  have late := (intervalElapsed_row (telemetryPeerGet peers req.from_).2.row nowMs intervalMs).trans
    (congrArg not free)
  rw [telemetryAllocReply_accepted accepted]
  generalize telemetryPeerGet peers req.from_ = found at *
  obtain ⟨i, peer⟩ := found
  simp only [show intervalElapsed peer.replyTimeValid peer.lastReplyMs nowMs intervalMs = true from late, if_true]
  refine ⟨?_, ?_, ?_⟩
  · exact (rows_update_eq TelemetryPeer.row peers i _).trans (at_.written_iff nowMs)
  · intro row member
    have updated := rows_update_mem TelemetryPeer.row peers i _ member
    rw [← named]
    exact updated
  · cases collected with
    | error err =>
      apply iff_of_false
      · intro replied
        obtain ⟨reply, made⟩ := replied
        cases made
      · intro can
        obtain ⟨message, measured, -⟩ := can
        cases measured
    | ok telemetry =>
      simp only [Except.toOption, Option.some.injEq, exists_eq_left']
      exact ReplyModule.encodePayload_builds telemetry _

end

theorem deviceTelemetry_budgeted (outside : ModuleOutside) (state : ModuleState mod) (req : Packet) :
    ReplyModule.deviceTelemetry.Budgeted outside nodeId state req where
  refused refused :=
    congrArg (fun peers => { state with devicePeers := peers }) (telemetryAllocReply_refused refused)
  limited accepted limited := telemetryAllocReply_limited accepted limited
  charged accepted free := telemetryAllocReply_charged accepted free

theorem environmentTelemetry_budgeted (outside : ModuleOutside) (state : ModuleState mod) (req : Packet) :
    ReplyModule.environmentTelemetry.Budgeted outside nodeId state req where
  refused refused :=
    congrArg (fun peers => { state with environmentPeers := peers }) (telemetryAllocReply_refused refused)
  limited accepted limited := telemetryAllocReply_limited accepted limited
  charged accepted free := by
    have measured : (outside.environment.mapError fun _ => Errno.enoent).toOption = outside.environment.toOption := by
      cases outside.environment <;> rfl
    unfold ReplyModule.CanBuild ReplyModule.message
    rw [← measured]
    exact telemetryAllocReply_charged accepted free

theorem nodeinfo_elapsed (outside : ModuleOutside) (state : ModuleState mod) {node : UInt32} (given : node ≠ 0) :
    intervalElapsed (state.nodeinfoPeer node outside.nodeinfoAt).2.replyTimeValid
      (state.nodeinfoPeer node outside.nodeinfoAt).2.lastReplyMs outside.nodeinfoAt
      (mod.nodeinfoReplySuppressSec * MSEC_PER_SEC) = !ReplyModule.nodeinfo.limits outside state node := by
  have anytime := (nodeinfoPeer_at state given outside.nodeinfoAt).1
  have elapsed := intervalElapsed_row (state.nodeinfoPeer node outside.nodeinfoAt).2.row outside.nodeinfoAt
    (mod.nodeinfoReplySuppressSec * MSEC_PER_SEC)
  exact elapsed.trans (congrArg (fun row : SuppressionRow => !(row.time.any _)) anytime)

theorem nodeinfo_budgeted (outside : ModuleOutside) (state : ModuleState mod) (req : Packet) :
    ReplyModule.nodeinfo.Budgeted outside nodeId state req := by
  have accepts : ReplyModule.nodeinfo.accepts outside nodeId req = !strangeSource nodeId req := Bool.and_true _
  constructor
  · intro refused
    rw [accepts, Bool.not_eq_false'] at refused
    simp only [ReplyModule.allocReply, nodeinfoAllocReply, refused, if_true]
  · intro accepted limits
    rw [accepts, Bool.not_eq_true'] at accepted
    have given := strangeSource_eq_false accepted
    have early := (nodeinfo_elapsed outside state given).trans (congrArg not limits)
    obtain ⟨anytime, -, at_⟩ := nodeinfoPeer_at state given outside.nodeinfoAt
    obtain ⟨last, recorded, -⟩ := (Option.any_eq_true _ _).mp limits
    have row : (state.nodeinfoPeer req.from_ outside.nodeinfoAt).2.row.time = some last :=
      (congrArg SuppressionRow.time anytime).trans recorded
    simp only [ReplyModule.allocReply, nodeinfoAllocReply, accepted, Bool.false_eq_true, if_false]
    generalize state.nodeinfoPeer req.from_ outside.nodeinfoAt = found at *
    obtain ⟨i, peer⟩ := found
    simp only [early, Bool.not_true, Bool.false_eq_true, if_false]
    exact (rows_update_eq NodeinfoPeer.row state.nodeinfoPeers i peer).mpr (at_.same row).1
  · intro accepted limits
    rw [accepts, Bool.not_eq_true'] at accepted
    have given := strangeSource_eq_false accepted
    have late := (nodeinfo_elapsed outside state given).trans (congrArg not limits)
    obtain ⟨anytime, named, at_⟩ := nodeinfoPeer_at state given outside.nodeinfoAt
    have atFound : ReplyModule.nodeinfo.found state req.from_ =
        (state.nodeinfoPeer req.from_ outside.nodeinfoAt).2.row := anytime.symm
    rw [atFound]
    simp only [ReplyModule.allocReply, nodeinfoAllocReply, accepted, Bool.false_eq_true, if_false]
    generalize state.nodeinfoPeer req.from_ outside.nodeinfoAt = found at *
    obtain ⟨i, peer⟩ := found
    simp only [late, Bool.not_false, if_true]
    refine ⟨?_, ?_, ?_⟩
    · exact (rows_update_eq NodeinfoPeer.row state.nodeinfoPeers i _).trans (at_.written_iff outside.nodeinfoAt)
    · intro row member
      have updated := rows_update_mem NodeinfoPeer.row state.nodeinfoPeers i _ member
      rw [← named]
      exact updated
    · simp only [ReplyModule.CanBuild, ReplyModule.message, Option.some.injEq, exists_eq_left']
      exact ReplyModule.encodePayload_builds outside.user _

theorem ReplyModule.budgeted (m : ReplyModule) (outside : ModuleOutside) (state : ModuleState mod) (req : Packet) :
    m.Budgeted outside nodeId state req := by
  cases m with
  | position => exact position_budgeted outside state req
  | deviceTelemetry => exact deviceTelemetry_budgeted outside state req
  | environmentTelemetry => exact environmentTelemetry_budgeted outside state req
  | nodeinfo => exact nodeinfo_budgeted outside state req

theorem ReplyModule.limits_recorded {m : ReplyModule} {outside : ModuleOutside} {state : ModuleState mod} {req : Packet}
    (accepted : m.accepts outside nodeId req = true) (limits : m.limits outside state req.from_ = true) :
    ∃ last, (m.rowNode req.from_, true, last) ∈ m.suppression state ∧ m.time outside - last < m.windowMs mod := by
  obtain ⟨last, recorded, within⟩ := (Option.any_eq_true _ _).mp limits
  refine ⟨last, ?_, of_decide_eq_true within⟩
  cases m with
  | position =>
    have at_ : FoundAt (position.found state req.from_) (position.found state req.from_) := Or.inl rfl
    rw [show (position.rowNode req.from_, true, last) = position.found state req.from_ from (at_.same recorded).2.symm]
    exact List.mem_singleton_self _
  | deviceTelemetry =>
    obtain ⟨named, at_⟩ := telemetryPeerGet_at state.devicePeers req.from_
    obtain ⟨same, row⟩ := at_.same recorded
    exact List.mem_ofFn.mpr ⟨_, same.symm.trans (row.trans (congrArg (fun node => (node, true, last)) named))⟩
  | environmentTelemetry =>
    obtain ⟨named, at_⟩ := telemetryPeerGet_at state.environmentPeers req.from_
    obtain ⟨same, row⟩ := at_.same recorded
    exact List.mem_ofFn.mpr ⟨_, same.symm.trans (row.trans (congrArg (fun node => (node, true, last)) named))⟩
  | nodeinfo =>
    have ordinary : strangeSource nodeId req = false := by
      rw [← Bool.not_eq_true']
      exact (Bool.and_true _).symm.trans accepted
    obtain ⟨-, named, at_⟩ := nodeinfoPeer_at state (strangeSource_eq_false ordinary) 0
    obtain ⟨same, row⟩ := at_.same recorded
    exact List.mem_ofFn.mpr ⟨_, same.symm.trans (row.trans (congrArg (fun node => (node, true, last)) named))⟩

theorem positionAllocReply_frame (nodeId : UInt32) (outside : ModuleOutside) (state : ModuleState mod) (req : Packet) :
    ∃ valid last, (positionAllocReply outside nodeId state req).1 =
      { state with positionReplyValid := valid, positionLastReplyMs := last } := by
  unfold positionAllocReply
  split_ifs <;> exact ⟨_, _, rfl⟩

theorem nodeinfoAllocReply_frame (nodeId : UInt32) (outside : ModuleOutside) (state : ModuleState mod) (req : Packet) :
    ∃ peers, (nodeinfoAllocReply outside nodeId state req).1 = { state with nodeinfoPeers := peers } := by
  cases strange : strangeSource nodeId req with
  | true => exact ⟨state.nodeinfoPeers, congrArg Prod.fst (if_pos strange)⟩
  | false =>
    obtain ⟨entry, written, -⟩ := nodeinfoAllocReply_takes state strange
    exact ⟨_, written⟩

theorem ReplyModule.suppression_other {m other : ReplyModule} (different : m ≠ other) (outside : ModuleOutside)
    (state : ModuleState mod) (req : Packet) :
    m.suppression (other.allocReply outside nodeId state req).1 = m.suppression state := by
  cases other with
  | position =>
    obtain ⟨valid, last, written⟩ := positionAllocReply_frame nodeId outside state req
    rw [show position.allocReply outside nodeId state req = positionAllocReply outside nodeId state req from rfl, written]
    cases m <;> first | exact absurd rfl different | rfl
  | deviceTelemetry => cases m <;> first | exact absurd rfl different | rfl
  | environmentTelemetry => cases m <;> first | exact absurd rfl different | rfl
  | nodeinfo =>
    obtain ⟨peers, written⟩ := nodeinfoAllocReply_frame nodeId outside state req
    rw [show nodeinfo.allocReply outside nodeId state req = nodeinfoAllocReply outside nodeId state req from rfl, written]
    cases m <;> first | exact absurd rfl different | rfl

theorem nodeinfoOnPacket_frame (outside : ModuleOutside) (primaryIndex : UInt8) (state : ModuleState mod)
    {packet : Packet} (ordinary : strangeSource nodeId packet = false) :
    ∃ entry : NodeinfoPeer, (nodeinfoOnPacket outside nodeId primaryIndex state packet).1 =
        state.withNodeinfoPeer (state.nodeinfoPeer packet.from_ outside.heardAt).1 entry ∧
      entry.row = (state.nodeinfoPeer packet.from_ outside.heardAt).2.row := by
  unfold nodeinfoOnPacket
  rw [if_neg (Bool.not_eq_true _ ▸ ordinary)]
  generalize state.nodeinfoPeer packet.from_ outside.heardAt = found
  obtain ⟨i, peer⟩ := found
  simp only
  split
  · exact ⟨_, rfl, rfl⟩
  · exact ⟨_, rfl, rfl⟩

theorem nodeinfoOnPacket_rows {m : ReplyModule} {outside : ModuleOutside} {primaryIndex : UInt8} {state : ModuleState mod}
    {packet : Packet} {row : SuppressionRow}
    (member : row ∈ m.suppression (nodeinfoOnPacket outside nodeId primaryIndex state packet).1) (recorded : row.2.1 = true) :
    row ∈ m.suppression state := by
  cases strange : strangeSource nodeId packet with
  | true =>
    have ignored : nodeinfoOnPacket outside nodeId primaryIndex state packet = (state, none) := if_pos strange
    rw [ignored] at member
    exact member
  | false =>
    obtain ⟨entry, written, same⟩ := nodeinfoOnPacket_frame outside primaryIndex state strange
    obtain ⟨-, -, at_⟩ := nodeinfoPeer_at state (strangeSource_eq_false strange) outside.heardAt
    rw [written] at member
    cases m with
    | position => exact member
    | deviceTelemetry => exact member
    | environmentTelemetry => exact member
    | nodeinfo =>
      cases rows_update_mem NodeinfoPeer.row state.nodeinfoPeers _ entry member with
      | inr old => exact old
      | inl new =>
        rw [new, same] at recorded ⊢
        cases at_ with
        | inl atPlace => exact List.mem_ofFn.mpr ⟨_, atPlace.symm⟩
        | inr missing => exact absurd (recorded.symm.trans missing.1) nofun

/-! ## Runs -/

inductive BudgetCall where
  | heard (outside : ModuleOutside) (primaryIndex : UInt8) (packet : Packet)
  | request (m : ReplyModule) (outside : ModuleOutside) (req : Packet)

variable (nodeId)

def ModuleState.budgetCall (state : ModuleState mod) : BudgetCall → ModuleState mod
  | .heard outside primaryIndex packet => (nodeinfoOnPacket outside nodeId primaryIndex state packet).1
  | .request m outside req => (m.allocReply outside nodeId state req).1

def budgetAfter (calls : List BudgetCall) : ModuleState mod := calls.foldl (ModuleState.budgetCall nodeId) {}

def BudgetCall.Spares (state : ModuleState mod) : BudgetCall → Prop
  | .heard .. => True
  | .request m outside req => m.Spares outside nodeId state req

/-- Every request of the run is one that spares the budget when it gets no reply. -/
def SparingRun (mod : ModuleKconfig) (calls : List BudgetCall) : Prop :=
  ∀ first call rest, calls = first ++ call :: rest → call.Spares nodeId (budgetAfter nodeId first : ModuleState mod)

/-- Somewhere in the run the module replied, at this time, and wrote it down for this row. -/
def RepliedAt (mod : ModuleKconfig) (calls : List BudgetCall) (m : ReplyModule) (node : UInt32) (last : Int) : Prop :=
  ∃ first outside req rest reply, calls = first ++ .request m outside req :: rest ∧ m.rowNode req.from_ = node ∧
    m.time outside = last ∧
    (m.allocReply outside nodeId (budgetAfter nodeId first : ModuleState mod) req).2 = .ok reply

variable {nodeId}

theorem RepliedAt.later {calls : List BudgetCall} {m : ReplyModule} {node : UInt32} {last : Int}
    (replied : RepliedAt nodeId mod calls m node last) (call : BudgetCall) :
    RepliedAt nodeId mod (calls ++ [call]) m node last := by
  obtain ⟨first, outside, req, rest, reply, split, facts⟩ := replied
  exact ⟨first, outside, req, rest ++ [call], reply, by rw [split, List.append_assoc, List.cons_append], facts⟩

theorem budgetAfter_snoc (calls : List BudgetCall) (call : BudgetCall) :
    (budgetAfter nodeId (calls ++ [call]) : ModuleState mod) = (budgetAfter nodeId calls).budgetCall nodeId call := by
  unfold budgetAfter
  rw [List.foldl_append, List.foldl_cons, List.foldl_nil]

theorem suppression_boot (m : ReplyModule) (node : UInt32) (last : Int) :
    (node, true, last) ∉ m.suppression ({} : ModuleState mod) := by
  have blank : ∀ row ∈ m.suppression ({} : ModuleState mod), row.2.1 = false := by
    cases m with
    | position => exact List.forall_mem_singleton.mpr rfl
    | deviceTelemetry => exact List.forall_mem_ofFn_iff.mpr fun _ => rfl
    | environmentTelemetry => exact List.forall_mem_ofFn_iff.mpr fun _ => rfl
    | nodeinfo => exact List.forall_mem_ofFn_iff.mpr fun _ => rfl
  intro member
  cases blank _ member

/-- A time that a sparing request leaves on record was there before, or is that of its reply. -/
theorem ReplyModule.recorded_request {m : ReplyModule} {outside : ModuleOutside} {state : ModuleState mod} {req : Packet}
    (spares : m.Spares outside nodeId state req) {node : UInt32} {last : Int}
    (member : (node, true, last) ∈ m.suppression (m.allocReply outside nodeId state req).1) :
    (node, true, last) ∈ m.suppression state ∨
      m.rowNode req.from_ = node ∧ m.time outside = last ∧
        ∃ reply, (m.allocReply outside nodeId state req).2 = .ok reply := by
  have budgeted : m.Budgeted outside nodeId state req := m.budgeted outside state req
  cases accepted : m.accepts outside nodeId req with
  | false =>
    rw [budgeted.refused accepted] at member
    exact Or.inl member
  | true =>
    cases limits : m.limits outside state req.from_ with
    | true =>
      rw [budgeted.limited accepted limits] at member
      exact Or.inl member
    | false =>
      obtain ⟨unchanged, rows, built⟩ := budgeted.charged accepted limits
      cases spares accepted limits with
      | inr recorded =>
        rw [unchanged.mpr recorded] at member
        exact Or.inl member
      | inl can =>
        cases rows _ member with
        | inr old => exact Or.inl old
        | inl new =>
          cases new
          exact Or.inr ⟨rfl, rfl, built.mpr can⟩

theorem recorded_run {calls : List BudgetCall} (sparing : SparingRun nodeId mod calls) (m : ReplyModule) (node : UInt32)
    (last : Int) (member : (node, true, last) ∈ m.suppression (budgetAfter nodeId calls : ModuleState mod)) :
    RepliedAt nodeId mod calls m node last := by
  induction calls using List.reverseRecOn with
  | nil => exact absurd member (suppression_boot m node last)
  | append_singleton calls call ih =>
    have earlier : SparingRun nodeId mod calls := by
      intro first other rest split
      apply sparing first other (rest ++ [call])
      rw [split, List.append_assoc, List.cons_append]
    have spares := sparing calls call [] rfl
    rw [budgetAfter_snoc] at member
    cases call with
    | heard outside primaryIndex packet => exact (ih earlier (nodeinfoOnPacket_rows member rfl)).later _
    | request other outside req =>
      by_cases same : m = other
      · rw [← same] at member spares ⊢
        cases ReplyModule.recorded_request spares member with
        | inl old => exact (ih earlier old).later _
        | inr replied =>
          obtain ⟨named, timed, reply, made⟩ := replied
          exact ⟨calls, outside, req, [], reply, rfl, named, timed, made⟩
      · change (node, true, last) ∈ m.suppression (other.allocReply outside nodeId (budgetAfter nodeId calls) req).1
          at member
        rw [ReplyModule.suppression_other same] at member
        exact (ih earlier member).later _

end

/-- For any one request that gets no reply the suppression state is kept exactly when the reply could have
been built or its time is on record already; in a run of such requests only a reply that was built suppresses
a later request. -/
theorem reply_budget_kept_iff (mod : ModuleKconfig) (nodeId : UInt32) :
    (∀ (m : ReplyModule) (outside : ModuleOutside) (state : ModuleState mod) (req : Packet),
      (m.NoReplyBuilt outside nodeId state req →
        m.suppression (m.allocReply outside nodeId state req).1 = m.suppression state) ↔
      m.Spares outside nodeId state req) ∧
    ∀ (calls : List BudgetCall) (m : ReplyModule) (outside : ModuleOutside) (req : Packet),
      SparingRun nodeId mod calls → m.accepts outside nodeId req = true →
      m.limits outside (budgetAfter nodeId calls : ModuleState mod) req.from_ = true →
      ∃ first outside' req' rest reply, calls = first ++ .request m outside' req' :: rest ∧
        (m = .position ∨ req'.from_ = req.from_) ∧ m.time outside - m.time outside' < m.windowMs mod ∧
        (m.allocReply outside' nodeId (budgetAfter nodeId first : ModuleState mod) req').2 = .ok reply := by
  constructor
  · intro m outside state req
    have budgeted : m.Budgeted outside nodeId state req := m.budgeted outside state req
    constructor
    · intro kept accepted free
      obtain ⟨unchanged, -, built⟩ := budgeted.charged accepted free
      by_cases can : m.CanBuild outside
      · exact Or.inl can
      · right
        apply unchanged.mp
        apply kept
        refine ⟨accepted, free, ?_⟩
        cases result : (m.allocReply outside nodeId state req).2 with
        | error err => exact ⟨err, rfl⟩
        | ok reply => exact absurd (built.mp ⟨reply, result⟩) can
    · intro spares failed
      obtain ⟨accepted, free, err, failed⟩ := failed
      obtain ⟨unchanged, -, built⟩ := budgeted.charged accepted free
      cases spares accepted free with
      | inr recorded => exact unchanged.mpr recorded
      | inl can =>
        obtain ⟨reply, made⟩ := built.mpr can
        cases failed.symm.trans made
  · intro calls m outside req sparing accepted limits
    obtain ⟨last, recorded, within⟩ := ReplyModule.limits_recorded accepted limits
    obtain ⟨first, outside', req', rest, reply, split, named, timed, made⟩ := recorded_run sparing m _ last recorded
    refine ⟨first, outside', req', rest, reply, split, ?_, timed ▸ within, made⟩
    by_cases shared : m = .position
    · exact Or.inl shared
    · unfold ReplyModule.rowNode at named
      rw [if_neg shared, if_neg shared] at named
      exact Or.inr named

def gnssOnly : ModuleKconfig := { nodeinfoOnly with nodeinfo := false, gnss := true }

def positionRequest : Packet := { from_ := 0x33, to_ := 0x11, id := 7, portnum := PORT_POSITION, wantResponse := true }

def fixedAt (time : Int) : ModuleOutside := { plainOutside with fix := some [0x0d, 0x01], positionAt := time }

theorem reply_budget_kept_answered :
    ∃ first outside req rest reply,
      [BudgetCall.request .position (fixedAt 0) positionRequest] = first ++ .request .position outside req :: rest ∧
      (ReplyModule.position.allocReply outside 0x11 (budgetAfter 0x11 first : ModuleState gnssOnly) req).2 =
        .ok reply := by
  have sparing : SparingRun 0x11 gnssOnly [BudgetCall.request .position (fixedAt 0) positionRequest] := by
    intro first call rest split
    cases first with
    | nil =>
      cases split
      exact fun _ _ => Or.inl ⟨[0x0d, 0x01], rfl, by decide⟩
    | cons other first =>
      have size := congrArg List.length split
      simp at size
  obtain ⟨first, outside, req, rest, reply, split, -, -, made⟩ := (reply_budget_kept_iff gnssOnly 0x11).2
    [.request .position (fixedAt 0) positionRequest] .position (fixedAt 1000) positionRequest sparing rfl rfl
  exact ⟨first, outside, req, rest, reply, split, made⟩

/-- A request without a fix is answered by nothing, and the one that follows a second later, with a fix, is
suppressed. -/
theorem reply_budget_spent_without_fix :
    ReplyModule.position.NoReplyBuilt plainOutside 0x11 ({} : ModuleState gnssOnly) positionRequest ∧
    ReplyModule.position.suppression ({} : ModuleState gnssOnly) = [(0, false, 0)] ∧
    ReplyModule.position.suppression
      (positionAllocReply plainOutside 0x11 ({} : ModuleState gnssOnly) positionRequest).1 = [(0, true, 0)] ∧
    (positionAllocReply (fixedAt 1000) 0x11
      (positionAllocReply plainOutside 0x11 ({} : ModuleState gnssOnly) positionRequest).1 positionRequest).2 =
        .error .enoent :=
  ⟨⟨rfl, rfl, .enoent, rfl⟩, rfl, rfl, rfl⟩

end Meshtastic
