import Meshtastic.NodeDbInvariant

/-! What the table shows of a node is a summary of that node's own packets since its entry was last created.
A packet touches no entry but the sender's, and at full capacity the one it replaces. -/

namespace Meshtastic
open Bytes

/-! ## The summary of a node's packets -/

def NodeBasic.ofHeard (heard : Heard) : NodeBasic :=
  { lastHeardUptimeSec := uptimeSeconds heard.uptimeMs
    snr := heard.packet.snr
    channel := if heard.packet.channelIndex ≠ CHANNEL_INDEX_INVALID then heard.packet.channelIndex else 0
    nextHop := heard.packet.nextHop
    viaMqtt := heard.packet.viaMqtt }

section
variable (env : NodeDbEnv)

/-- The latest of everything that the packets say. -/
def summary (nodeNum : UInt32) (heard : List Heard) : NodeSnapshot :=
  { toNodeBasic := ((Scan.latest some heard).map NodeBasic.ofHeard).getD {}
    toNodeUser := ((Scan.latest (fun h => packetUser env h.packet) heard).map NodeUser.ofMessage).getD {}
    num := nodeNum
    hopsAway := Scan.latest (fun h => packetHopsAway h.packet) heard
    position := (Scan.latest (fun h => packetPosition env h.packet) heard).map
      (fun position => snapshotPosition (.ofMessage position))
    deviceMetrics := Scan.latest (fun h => packetDeviceMetrics env h.packet) heard
    environmentMetrics :=
      (Scan.latest (fun h => packetEnvironmentMetrics env h.packet) heard).map copyEnvironmentMetrics
    status := (Scan.latest (fun h => packetStatus env h.packet) heard).map (·.truncate 79) }

def applyHeard (entry : NodeEntry) (heard : Heard) : NodeEntry :=
  applyPacket env entry heard.packet (uptimeSeconds heard.uptimeMs)

end

section
variable (env : NodeDbEnv) (entry : NodeEntry) (heard : Heard)

theorem basic_applyHeard :
    (fillSnapshot (applyHeard env entry heard)).toNodeBasic =
      ((some heard).map NodeBasic.ofHeard).getD (fillSnapshot entry).toNodeBasic := by
  rw [applyHeard, applyPacket_eq]
  cases packetUser env heard.packet with
  | none =>
    simp [fillSnapshot, applyBasicPacket, NodeBasic.ofHeard, isBitSet_writeBit, NODEINFO_BITFIELD_VIA_MQTT_BIT]
  | some user =>
    simp [fillSnapshot, applyBasicPacket, applyUser, NodeBasic.ofHeard, isBitSet_writeBit,
      NODEINFO_BITFIELD_VIA_MQTT_BIT, NODEINFO_BITFIELD_HAS_USER_BIT, NODEINFO_BITFIELD_IS_LICENSED_BIT,
      NODEINFO_BITFIELD_IS_UNMESSAGABLE_BIT, NODEINFO_BITFIELD_HAS_IS_UNMESSAGABLE_BIT]

theorem user_applyHeard :
    (fillSnapshot (applyHeard env entry heard)).toNodeUser =
      ((packetUser env heard.packet).map NodeUser.ofMessage).getD (fillSnapshot entry).toNodeUser := by
  rw [applyHeard, applyPacket_eq]
  cases packetUser env heard.packet with
  | none =>
    simp [fillSnapshot, applyBasicPacket, isBitSet_writeBit, NODEINFO_BITFIELD_VIA_MQTT_BIT,
      NODEINFO_BITFIELD_HAS_USER_BIT, NODEINFO_BITFIELD_IS_LICENSED_BIT, NODEINFO_BITFIELD_IS_UNMESSAGABLE_BIT,
      NODEINFO_BITFIELD_HAS_IS_UNMESSAGABLE_BIT]
  | some user => exact fillSnapshot_applyUser (applyBasicPacket entry heard.packet _) user

theorem hopsAway_applyHeard :
    (fillSnapshot (applyHeard env entry heard)).hopsAway =
      ((packetHopsAway heard.packet).map some).getD (fillSnapshot entry).hopsAway := by
  rw [applyHeard, applyPacket_eq]
  cases hops : packetHopsAway heard.packet <;> cases packetUser env heard.packet <;>
    simp [fillSnapshot, applyBasicPacket, applyUser, hops]

theorem position_applyHeard :
    (fillSnapshot (applyHeard env entry heard)).position =
      ((packetPosition env heard.packet).map (fun position => some (snapshotPosition (.ofMessage position)))).getD
        (fillSnapshot entry).position := by
  rw [applyHeard, applyPacket_eq]
  cases packetPosition env heard.packet with
  | none => rfl
  | some position => rfl

theorem deviceMetrics_applyHeard :
    (fillSnapshot (applyHeard env entry heard)).deviceMetrics =
      ((packetDeviceMetrics env heard.packet).map some).getD (fillSnapshot entry).deviceMetrics := by
  rw [applyHeard, applyPacket_eq]
  cases packetDeviceMetrics env heard.packet with
  | none => rfl
  | some metrics => rfl

theorem environmentMetrics_applyHeard :
    (fillSnapshot (applyHeard env entry heard)).environmentMetrics =
      ((packetEnvironmentMetrics env heard.packet).map (fun metrics => some (copyEnvironmentMetrics metrics))).getD
        (fillSnapshot entry).environmentMetrics := by
  rw [applyHeard, applyPacket_eq]
  cases packetEnvironmentMetrics env heard.packet with
  | none => rfl
  | some metrics => rfl

theorem status_applyHeard :
    (fillSnapshot (applyHeard env entry heard)).status =
      ((packetStatus env heard.packet).map (fun status => some (status.truncate 79))).getD
        (fillSnapshot entry).status := by
  rw [applyHeard, applyPacket_eq]
  cases packetStatus env heard.packet with
  | none => rfl
  | some status => rfl

end

private theorem getD_map_some {Value Shown : Type} (value : Option Value) (shown : Value → Shown) :
    (value.map (fun v => some (shown v))).getD none = value.map shown := by
  cases value with
  | none => rfl
  | some v => rfl

private theorem getD_some {Value : Type} (value : Option Value) : (value.map some).getD none = value := by
  cases value with
  | none => rfl
  | some v => rfl

theorem NodeSnapshot.eq_of_parts {one other : NodeSnapshot} (basic : one.toNodeBasic = other.toNodeBasic)
    (user : one.toNodeUser = other.toNodeUser) (num : one.num = other.num) (hops : one.hopsAway = other.hopsAway)
    (position : one.position = other.position) (device : one.deviceMetrics = other.deviceMetrics)
    (environment : one.environmentMetrics = other.environmentMetrics) (status : one.status = other.status) :
    one = other := by
  cases one
  cases other
  cases basic
  cases user
  simp only at num hops position device environment status
  simp only [num, hops, position, device, environment, status]

theorem applyHeard_foldl_num (env : NodeDbEnv) (entry : NodeEntry) (heard : List Heard) :
    (heard.foldl (applyHeard env) entry).node.num = entry.node.num := by
  induction heard generalizing entry with
  | nil => rfl
  | cons first rest ih =>
    rw [List.foldl_cons, ih]
    exact applyPacket_num

theorem fillSnapshot_freshEntry (nodeNum : UInt32) :
    (fillSnapshot (NodeDb.freshEntry nodeNum)).toNodeBasic = {} ∧
    (fillSnapshot (NodeDb.freshEntry nodeNum)).toNodeUser = {} := by
  constructor
  · simp [fillSnapshot, NodeDb.freshEntry, isBitSet]
  · simp [fillSnapshot, NodeDb.freshEntry, isBitSet, CString.truncate, CString.empty]

theorem fillSnapshot_foldl (env : NodeDbEnv) (nodeNum : UInt32) (heard : List Heard) :
    fillSnapshot (heard.foldl (applyHeard env) (NodeDb.freshEntry nodeNum)) = summary env nodeNum heard := by
  have blank := fillSnapshot_freshEntry nodeNum
  apply NodeSnapshot.eq_of_parts
  · rw [Scan.view_foldl (fun entry => (fillSnapshot entry).toNodeBasic) (basic_applyHeard env), blank.1]
    rfl
  · rw [Scan.view_foldl (fun entry => (fillSnapshot entry).toNodeUser) (user_applyHeard env), blank.2]
    rfl
  · exact applyHeard_foldl_num env _ heard
  · rw [Scan.view_foldl (fun entry => (fillSnapshot entry).hopsAway) (hopsAway_applyHeard env)]
    exact getD_some _
  · rw [Scan.view_foldl (fun entry => (fillSnapshot entry).position) (position_applyHeard env)]
    exact getD_map_some _ _
  · rw [Scan.view_foldl (fun entry => (fillSnapshot entry).deviceMetrics) (deviceMetrics_applyHeard env)]
    exact getD_some _
  · rw [Scan.view_foldl (fun entry => (fillSnapshot entry).environmentMetrics) (environmentMetrics_applyHeard env)]
    exact getD_map_some _ _
  · rw [Scan.view_foldl (fun entry => (fillSnapshot entry).status) (status_applyHeard env)]
    exact getD_map_some _ _

/-! ## The entry of one node -/

namespace NodeDb
variable {env : NodeDbEnv} {startMs : Nat} {db : NodeDb env.maxNodes} {nodeNum : UInt32}

def entryOf (db : NodeDb env.maxNodes) (nodeNum : UInt32) : Option NodeEntry := (db.findEntry nodeNum).map db.entries

theorem entryOf_withEntry {count : Nat} {i : Fin env.maxNodes} {entry found : NodeEntry}
    (valid : db.Valid env startMs) (filled : ∀ j : Fin env.maxNodes, j.val < count → j ≠ i → j.val < db.count)
    (fresh : ∀ j : Fin env.maxNodes, j.val < db.count → j ≠ i → (db.entries j).node.num ≠ entry.node.num)
    (looked : (NodeDb.withEntry { db with count := count } i entry).entryOf nodeNum = some found) :
    (entry.node.num = nodeNum ∧ found = entry) ∨ (entry.node.num ≠ nodeNum ∧ db.entryOf nodeNum = some found) := by
  obtain ⟨k, at_, same⟩ := Option.map_eq_some_iff.mp looked
  obtain ⟨within, -, number⟩ := findEntry_eq_some at_
  by_cases here : k = i
  · simp only [NodeDb.withEntry, here, Function.update_self] at same number
    exact Or.inl ⟨number, same.symm⟩
  · simp only [NodeDb.withEntry, Function.update_of_ne here] at same number
    have before := filled k within here
    refine Or.inr ⟨?_, ?_⟩
    · intro written
      exact fresh k before here (number.trans written.symm)
    · rw [entryOf, ← number, valid.findEntry before, ← same]
      rfl

theorem entryOf_ne_zero (valid : db.Valid env startMs) {found : NodeEntry} (looked : db.entryOf nodeNum = some found) :
    nodeNum ≠ 0 := by
  obtain ⟨k, at_, -⟩ := Option.map_eq_some_iff.mp looked
  obtain ⟨within, -, number⟩ := findEntry_eq_some at_
  rw [← number]
  exact valid.nonzero k within

/-- What is found for a number after a packet: a fresh entry that the packet has made, or the old entry, which
only a packet from that number has changed. -/
def Traced (db : NodeDb env.maxNodes) (nodeNum : UInt32) (heard : Heard) (found : NodeEntry) : Prop :=
  (db.entryOf nodeNum = none ∧ decide (heard.packet.from_ = nodeNum) = true ∧
    found = applyHeard env (freshEntry nodeNum) heard) ∨
  ∃ old, db.entryOf nodeNum = some old ∧
    found = if decide (heard.packet.from_ = nodeNum) = true then applyHeard env old heard else old

theorem traced_untouched {heard : Heard} {found : NodeEntry} (present : db.entryOf nodeNum = some found)
    (different : heard.packet.from_ ≠ nodeNum) : db.Traced nodeNum heard found := by
  refine Or.inr ⟨found, present, ?_⟩
  rw [if_neg (by simpa using different)]

theorem traced_created (valid : db.Valid env startMs) {heard : Heard} (absent : db.findEntry heard.packet.from_ = none)
    {count : Nat} {i : Fin env.maxNodes} (filled : ∀ j : Fin env.maxNodes, j.val < count → j ≠ i → j.val < db.count)
    {found : NodeEntry} (looked : (NodeDb.withEntry { db with count := count } i
      (applyHeard env (freshEntry heard.packet.from_) heard)).entryOf nodeNum = some found) :
    db.Traced nodeNum heard found := by
  have number : (applyHeard env (freshEntry heard.packet.from_) heard).node.num = heard.packet.from_ := applyPacket_num
  have fresh : ∀ j : Fin env.maxNodes, j.val < db.count → j ≠ i →
      (db.entries j).node.num ≠ (applyHeard env (freshEntry heard.packet.from_) heard).node.num := by
    intro j within _
    rw [number]
    exact findEntry_eq_none absent within (valid.used j within)
  cases entryOf_withEntry valid filled fresh looked with
  | inl written =>
    obtain ⟨same, value⟩ := written
    rw [number] at same
    rw [same] at absent value
    refine Or.inl ⟨?_, by simpa using same, value⟩
    rw [entryOf, absent]
    rfl
  | inr kept =>
    obtain ⟨different, before⟩ := kept
    rw [number] at different
    exact traced_untouched before different

theorem traced_refreshed (valid : db.Valid env startMs) {heard : Heard} {i : Fin env.maxNodes}
    (at_ : db.findEntry heard.packet.from_ = some i) {found : NodeEntry}
    (looked : (db.withEntry i (applyHeard env (db.entries i) heard)).entryOf nodeNum = some found) :
    db.Traced nodeNum heard found := by
  obtain ⟨inside, used, number⟩ := findEntry_eq_some at_
  have fresh : ∀ j : Fin env.maxNodes, j.val < db.count → j ≠ i →
      (db.entries j).node.num ≠ (applyHeard env (db.entries i) heard).node.num := by
    intro j within apart equal
    rw [applyHeard, applyPacket_num] at equal
    exact apart (valid.distinct j i within inside equal)
  cases entryOf_withEntry valid (fun _ within _ => within) fresh looked with
  | inl written =>
    obtain ⟨same, value⟩ := written
    rw [applyHeard, applyPacket_num, number] at same
    refine Or.inr ⟨db.entries i, ?_, ?_⟩
    · simp only [entryOf, ← same, at_, Option.map_some]
    · rw [if_pos (by simpa using same)]
      exact value
  | inr kept =>
    obtain ⟨different, before⟩ := kept
    rw [applyHeard, applyPacket_num, number] at different
    exact traced_untouched before different

theorem owned (valid : db.Valid env startMs) (remote : nodeNum ≠ env.nodeId) (heard : Heard) :
    Scan.Owned (nodedbStep env) (fun db => db.entryOf nodeNum) (fun heard => heard.packet.from_ = nodeNum)
      (applyHeard env) (freshEntry nodeNum) db heard := by
  intro found looked
  have change := nodedbStep_change env db heard
  generalize nodedbStep env db heard = next at change looked
  change db.Traced nodeNum heard found
  cases change with
  | ignored own =>
    apply traced_untouched looked
    intro same
    cases own with
    | inl zero => exact entryOf_ne_zero valid looked (same.symm.trans zero)
    | inr self => exact remote (same.symm.trans self)
  | refreshed other i at_ => exact traced_refreshed valid at_ looked
  | appended other absent room =>
    apply traced_created valid absent _ looked
    intro j within apart
    have different : j.val ≠ db.count := fun same => apart (Fin.ext same)
    omega
  | replaced other absent full i oldest => exact traced_created valid absent (fun _ within _ => within) looked
  | dropped other absent full nothing =>
    apply traced_untouched looked
    intro same
    rw [same] at absent
    simp only [entryOf, absent] at looked
    cases looked

end NodeDb

section
variable {env : NodeDbEnv} {startMs : Nat} {db : NodeDb env.maxNodes} {nodeNum : UInt32}

theorem nodedbGet_eq_ok {snapshot : NodeSnapshot} :
    nodedbGet db nodeNum = .ok snapshot ↔ ∃ entry, db.entryOf nodeNum = some entry ∧ snapshot = fillSnapshot entry := by
  unfold nodedbGet NodeDb.entryOf
  cases db.findEntry nodeNum with
  | none => simp
  | some i => simp [eq_comm]

theorem nodedbGet_of_absent (absent : db.entryOf nodeNum = none) : nodedbGet db nodeNum = .error .enoent := by
  simp only [nodedbGet, Option.map_eq_none_iff.mp absent]

end

/-! ## Locality -/

section
variable {env : NodeDbEnv} {startMs : Nat}

theorem nodedbInit_num (nonzero : env.nodeId ≠ 0) {i : Fin env.maxNodes}
    (inside : i.val < (nodedbInit env startMs).2.count) :
    ((nodedbInit env startMs).2.entries i).node.num = env.nodeId := by
  rw [nodedbInit_eq nonzero] at inside ⊢
  have first : i = ⟨0, env.maxNodes_range.1⟩ := by
    apply Fin.ext
    simp only at inside ⊢
    omega
  simp only [first, Function.update_self, localEntry_num]

/-- The entry of another node is what the node's packets have made of a fresh one since it was created. -/
theorem entryOf_since_created (nonzero : env.nodeId ≠ 0) {nodeNum : UInt32} (remote : nodeNum ≠ env.nodeId)
    {history : List Heard} {entry : NodeEntry} (found : (nodedbAfter env startMs history).entryOf nodeNum = some entry) :
    ∃ before first rest, history = before ++ first :: rest ∧ first.packet.from_ = nodeNum ∧
      (nodedbAfter env startMs before).entryOf nodeNum = none ∧
      (∀ middle later, rest = middle ++ later →
        ((nodedbAfter env startMs (before ++ first :: middle)).entryOf nodeNum).isSome = true) ∧
      entry = ((first :: rest).filter (fun heard => heard.packet.from_ = nodeNum)).foldl (applyHeard env)
        (NodeDb.freshEntry nodeNum) := by
  have absent : (nodedbAfter env startMs []).entryOf nodeNum = none := by
    cases looked : (nodedbAfter env startMs []).entryOf nodeNum with
    | none => rfl
    | some entry =>
      obtain ⟨i, at_, -⟩ := Option.map_eq_some_iff.mp looked
      obtain ⟨within, -, number⟩ := NodeDb.findEntry_eq_some at_
      exact absurd (number.symm.trans (nodedbInit_num nonzero within)) remote
  obtain ⟨before, first, rest, split, own, missing, stays, folded⟩ :=
    Scan.since_created (nodedbStep env) (fun db => db.entryOf nodeNum) absent
      (fun before item after _ => NodeDb.owned (nodedbAfter_valid nonzero before) remote item) found
  exact ⟨before, first, rest, split, by simpa using own, missing, stays, folded⟩

theorem lastHeard_foldl (env : NodeDbEnv) (entry : NodeEntry) (heard : List Heard) :
    (heard.foldl (applyHeard env) entry).node.lastHeard = entry.node.lastHeard ∨
      ∃ one ∈ heard, (heard.foldl (applyHeard env) entry).node.lastHeard = uptimeSeconds one.uptimeMs := by
  induction heard generalizing entry with
  | nil => exact Or.inl rfl
  | cons first rest ih =>
    rw [List.foldl_cons]
    cases ih (applyHeard env entry first) with
    | inl kept =>
      have set : (applyHeard env entry first).node.lastHeard = uptimeSeconds first.uptimeMs :=
        congrArg NodeBasic.lastHeardUptimeSec (basic_applyHeard env entry first)
      exact Or.inr ⟨first, List.mem_cons_self, kept.trans set⟩
    | inr later =>
      obtain ⟨one, member, same⟩ := later
      exact Or.inr ⟨one, List.mem_cons_of_mem first member, same⟩

theorem lastHeard_lt (nonzero : env.nodeId ≠ 0) {history : List Heard} {limitMs : Nat}
    (clock : ∀ earlier ∈ history, earlier.uptimeMs ≤ limitMs) (soon : limitMs / 1000 < 2 ^ 32 - 1)
    {i : Fin env.maxNodes} (inside : i.val < (nodedbAfter env startMs history).count)
    (remote : ((nodedbAfter env startMs history).entries i).node.num ≠ env.nodeId) :
    ((nodedbAfter env startMs history).entries i).node.lastHeard.toNat < UINT32_MAX.toNat := by
  have largest : UINT32_MAX.toNat = 2 ^ 32 - 1 := rfl
  have found : (nodedbAfter env startMs history).entryOf ((nodedbAfter env startMs history).entries i).node.num =
      some ((nodedbAfter env startMs history).entries i) := by
    rw [NodeDb.entryOf, (nodedbAfter_valid nonzero history).findEntry inside]
    rfl
  obtain ⟨before, first, rest, split, -, -, -, folded⟩ := entryOf_since_created nonzero remote found
  rw [folded]
  cases lastHeard_foldl env (NodeDb.freshEntry _) ((first :: rest).filter _) with
  | inl blank =>
    rw [blank]
    exact (by decide : (0 : UInt32).toNat < UINT32_MAX.toNat)
  | inr heard =>
    obtain ⟨one, member, same⟩ := heard
    have past : one.uptimeMs ≤ limitMs := by
      apply clock
      rw [split]
      exact List.mem_append_right before (List.mem_filter.mp member).1
    rw [same, uptimeSeconds, UInt32.toNat_ofNat', largest]
    omega

end

namespace NodeDb
variable {size : Nat}

def Holds (db : NodeDb size) (nodeNum : UInt32) (i : Fin size) : Prop :=
  i.val < db.count ∧ (db.entries i).node.num = nodeNum

def SameBut (db next : NodeDb size) (i : Fin size) : Prop := ∀ j, j ≠ i → next.entries j = db.entries j

/-- What a packet from a node may do to the table. -/
inductive LocalChange (db : NodeDb size) (nodeId nodeNum : UInt32) (next : NodeDb size) : Prop
  | own (i : Fin size) (present : db.Holds nodeNum i) (count : next.count = db.count) (still : next.Holds nodeNum i)
      (rest : db.SameBut next i)
  | appended (absent : ∀ i, ¬ db.Holds nodeNum i) (room : db.count < size) (count : next.count = db.count + 1)
      (i : Fin size) (place : i.val = db.count) (written : next.Holds nodeNum i) (rest : db.SameBut next i)
  | replaced (absent : ∀ i, ¬ db.Holds nodeNum i) (full : db.count = size) (count : next.count = db.count)
      (i : Fin size) (inside : i.val < db.count) (remote : (db.entries i).node.num ≠ nodeId)
      (oldest : ∀ j : Fin size, j.val < db.count → (db.entries j).node.num ≠ nodeId →
        (db.entries i).node.lastHeard ≤ (db.entries j).node.lastHeard)
      (written : next.Holds nodeNum i) (rest : db.SameBut next i)
  | nothing (absent : ∀ i, ¬ db.Holds nodeNum i) (full : db.count = size)
      (alone : ∀ i : Fin size, i.val < db.count → (db.entries i).node.num = nodeId) (same : next = db)

end NodeDb

section
variable {env : NodeDbEnv} {startMs : Nat} {db : NodeDb env.maxNodes}

theorem NodeDb.sameBut_withEntry (count : Nat) (i : Fin env.maxNodes) (entry : NodeEntry) :
    db.SameBut (NodeDb.withEntry { db with count := count } i entry) i := by
  intro j apart
  simp only [NodeDb.withEntry, Function.update_of_ne apart]

theorem NodeDb.holds_withEntry (db : NodeDb env.maxNodes) {count : Nat} {i : Fin env.maxNodes} (inside : i.val < count)
    (entry : NodeEntry) :
    (NodeDb.withEntry { db with count := count } i entry).Holds entry.node.num i := by
  refine ⟨inside, ?_⟩
  simp only [NodeDb.withEntry, Function.update_self]

theorem NodeDb.Valid.not_holds (valid : db.Valid env startMs) {nodeNum : UInt32} (absent : db.findEntry nodeNum = none)
    (i : Fin env.maxNodes) : ¬ db.Holds nodeNum i := by
  intro present
  exact NodeDb.findEntry_eq_none absent present.1 (valid.used i present.1) present.2

theorem NodeDb.Valid.localChange (valid : db.Valid env startMs) (heard : Heard)
    (other : heard.packet.from_ ≠ 0 ∧ heard.packet.from_ ≠ env.nodeId)
    (recent : ∀ i : Fin env.maxNodes, i.val < db.count → (db.entries i).node.num ≠ env.nodeId →
      (db.entries i).node.lastHeard.toNat < UINT32_MAX.toNat) :
    db.LocalChange env.nodeId heard.packet.from_ (nodedbStep env db heard) := by
  have change := nodedbStep_change env db heard
  generalize nodedbStep env db heard = next at change
  cases change with
  | ignored own => exact absurd own (not_or.mpr other)
  | refreshed _ i found =>
    obtain ⟨inside, -, number⟩ := NodeDb.findEntry_eq_some found
    have still := NodeDb.holds_withEntry db inside
      (applyPacket env (db.entries i) heard.packet (uptimeSeconds heard.uptimeMs))
    rw [applyPacket_num, number] at still
    exact .own i ⟨inside, number⟩ rfl still (NodeDb.sameBut_withEntry _ i _)
  | appended _ absent room =>
    have written := NodeDb.holds_withEntry db (i := ⟨db.count, room⟩) (Nat.lt_succ_self _)
      (applyPacket env (NodeDb.freshEntry heard.packet.from_) heard.packet (uptimeSeconds heard.uptimeMs))
    rw [applyPacket_num] at written
    exact .appended (valid.not_holds absent) room rfl ⟨db.count, room⟩ rfl written (NodeDb.sameBut_withEntry _ _ _)
  | replaced _ absent full i oldest =>
    obtain ⟨⟨inside, -, remote⟩, least⟩ := NodeDb.oldestEvictableIndex_eq_some oldest
    have written := NodeDb.holds_withEntry db inside
      (applyPacket env (NodeDb.freshEntry heard.packet.from_) heard.packet (uptimeSeconds heard.uptimeMs))
    rw [applyPacket_num] at written
    have whole : db.count = env.maxNodes := by
      have bound := valid.count_le
      omega
    exact .replaced (valid.not_holds absent) whole rfl i inside remote
      (fun j within => least j within (valid.used j within)) written (NodeDb.sameBut_withEntry _ i _)
  | dropped _ absent full nothing =>
    have whole : db.count = env.maxNodes := by
      have bound := valid.count_le
      omega
    refine .nothing (valid.not_holds absent) whole ?_ rfl
    intro i inside
    by_contra remote
    have member : i ∈ (List.finRange env.maxNodes).filter (db.evictable env.nodeId) :=
      List.mem_filter.mpr ⟨List.mem_finRange i, NodeDb.evictable_iff.mpr ⟨inside, valid.used i inside, remote⟩⟩
    have late := Scan.firstLeast_eq_none nothing i member
    have early := recent i inside remote
    omega

end

/-- A packet from another node changes that node's entry, or appends one, or at full capacity replaces a
least recently heard entry of another node. So what is shown of a node is the summary of its own packets
since its entry was last created. -/
theorem nodedb_local_and_summarised (env : NodeDbEnv) (startMs : Nat) (nonzero : env.nodeId ≠ 0)
    (history : List Heard) :
    (∀ heard : Heard, heard.packet.from_ ≠ 0 → heard.packet.from_ ≠ env.nodeId →
      (∀ earlier ∈ history, earlier.uptimeMs ≤ heard.uptimeMs) → heard.uptimeMs / 1000 < 2 ^ 32 - 1 →
      (nodedbAfter env startMs history).LocalChange env.nodeId heard.packet.from_
        (nodedbAfter env startMs (history ++ [heard]))) ∧
    (∀ nodeNum snapshot, nodeNum ≠ env.nodeId → nodedbGet (nodedbAfter env startMs history) nodeNum = .ok snapshot →
      ∃ before first rest, history = before ++ first :: rest ∧ first.packet.from_ = nodeNum ∧
        nodedbGet (nodedbAfter env startMs before) nodeNum = .error .enoent ∧
        (∀ middle later, rest = middle ++ later →
          ∃ shown, nodedbGet (nodedbAfter env startMs (before ++ first :: middle)) nodeNum = .ok shown) ∧
        snapshot = summary env nodeNum ((first :: rest).filter (fun heard => heard.packet.from_ = nodeNum))) := by
  constructor
  · intro heard sender remote clock soon
    rw [nodedbAfter, nodedbAfter, List.foldl_append]
    exact (nodedbAfter_valid nonzero history).localChange heard ⟨sender, remote⟩
      (fun i inside other => lastHeard_lt nonzero clock soon inside other)
  · intro nodeNum snapshot remote got
    obtain ⟨entry, found, shown⟩ := nodedbGet_eq_ok.mp got
    obtain ⟨before, first, rest, split, own, missing, stays, folded⟩ := entryOf_since_created nonzero remote found
    refine ⟨before, first, rest, split, own, nodedbGet_of_absent missing, ?_, ?_⟩
    · intro middle later parts
      obtain ⟨kept, present⟩ := Option.isSome_iff_exists.mp (stays middle later parts)
      exact ⟨fillSnapshot kept, nodedbGet_eq_ok.mpr ⟨kept, present, rfl⟩⟩
    · rw [shown, folded, fillSnapshot_foldl]

theorem nodedb_local_and_summarised_evicted :
    (nodedbAfter twoNodes 0 [⟨{ from_ := 0x11 }, 1000⟩]).LocalChange 0x22 0x33
      (nodedbAfter twoNodes 0 [⟨{ from_ := 0x11 }, 1000⟩, ⟨{ from_ := 0x33 }, 2000⟩]) :=
  (nodedb_local_and_summarised twoNodes 0 (by decide) [⟨{ from_ := 0x11 }, 1000⟩]).1 ⟨{ from_ := 0x33 }, 2000⟩
    (by decide) (by decide) (by simp) (by decide)

end Meshtastic
