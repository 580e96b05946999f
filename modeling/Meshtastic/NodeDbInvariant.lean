import Meshtastic.NodeDb

/-! The node table keeps one entry per node and never loses the entry of its own node, whatever packets
arrive and however small the array is. -/

namespace Meshtastic
open Bytes

/-! ## Entries -/

theorem isBitSet_writeBit {bit other : Nat} (word : BitVec 32) (set : Bool) (small : other < 32) :
    isBitSet (writeBit word bit set) other = if other = bit then set else isBitSet word other := by
  unfold writeBit isBitSet
  by_cases same : other = bit
  · subst same
    cases set with
    | false => simp [small]
    | true => simp [small]
  · cases set with
    | false => simp [small, same]
    | true => simp [small, same]

theorem CString.truncate_truncate (text : CString) (count : Nat) :
    (text.truncate count).truncate count = text.truncate count := by
  simp [CString.truncate, List.take_take]

def NodeUser.ofMessage (user : UserMessage) : NodeUser :=
  { hasUser := true
    longName := user.longName.truncate 24
    shortName := user.shortName.truncate 4
    hwModel := UInt8.ofNat user.hwModel
    role := UInt8.ofNat user.role.toNat
    isLicensed := user.isLicensed
    hasIsUnmessagable := user.isUnmessagable.isSome
    isUnmessagable := user.isUnmessagable.getD false
    publicKey := user.publicKey.take 32 }

theorem fillSnapshot_applyUser (entry : NodeEntry) (user : UserMessage) :
    (fillSnapshot (applyUser entry user)).toNodeUser = NodeUser.ofMessage user := by
  simp [fillSnapshot, applyUser, NodeUser.ofMessage, isBitSet_writeBit, CString.truncate_truncate, List.take_take,
    NODEINFO_BITFIELD_HAS_USER_BIT, NODEINFO_BITFIELD_IS_LICENSED_BIT, NODEINFO_BITFIELD_IS_UNMESSAGABLE_BIT,
    NODEINFO_BITFIELD_HAS_IS_UNMESSAGABLE_BIT]

def packetDeviceMetrics (env : NodeDbEnv) (packet : Packet) : Option DeviceMetrics :=
  match packetTelemetry env packet with
  | some (.deviceMetrics metrics) => some metrics
  | _ => none

def packetEnvironmentMetrics (env : NodeDbEnv) (packet : Packet) : Option EnvironmentMetrics :=
  match packetTelemetry env packet with
  | some (.environmentMetrics metrics) => some metrics
  | _ => none

section
variable {env : NodeDbEnv} {entry : NodeEntry} {packet : Packet} {nowSec : UInt32}

theorem applyPacket_eq :
    applyPacket env entry packet nowSec =
      { used := entry.used
        node := (packetUser env packet).elim (applyBasicPacket entry packet nowSec).node
          (fun user => (applyUser (applyBasicPacket entry packet nowSec) user).node)
        position := ((packetPosition env packet).map .ofMessage).or entry.position
        deviceMetrics := (packetDeviceMetrics env packet).or entry.deviceMetrics
        environmentMetrics := (packetEnvironmentMetrics env packet).or entry.environmentMetrics
        status := (packetStatus env packet).or entry.status } := by
  unfold applyPacket packetDeviceMetrics packetEnvironmentMetrics
  cases packetUser env packet <;> cases packetPosition env packet <;> cases packetStatus env packet <;>
    cases packetTelemetry env packet with
    | none => rfl
    | some telemetry => cases telemetry <;> rfl

@[simp] theorem applyPacket_num : (applyPacket env entry packet nowSec).node.num = entry.node.num := by
  rw [applyPacket_eq]
  cases packetUser env packet with
  | none => rfl
  | some user => rfl

@[simp] theorem applyPacket_used : (applyPacket env entry packet nowSec).used = entry.used := by
  rw [applyPacket_eq]

end

/-! ## Lookups -/

namespace NodeDb
variable {size : Nat} {db : NodeDb size} {nodeNum : UInt32} {i : Fin size}

theorem entryIs_iff : db.entryIs nodeNum i = true ↔
    i.val < db.count ∧ (db.entries i).used = true ∧ (db.entries i).node.num = nodeNum := by
  simp [entryIs, and_assoc]

theorem evictable_iff {nodeId : UInt32} : db.evictable nodeId i = true ↔
    i.val < db.count ∧ (db.entries i).used = true ∧ (db.entries i).node.num ≠ nodeId := by
  simp [evictable, and_assoc]

theorem findEntry_eq_some (found : db.findEntry nodeNum = some i) :
    i.val < db.count ∧ (db.entries i).used = true ∧ (db.entries i).node.num = nodeNum :=
  entryIs_iff.mp (List.find?_some found)

theorem findEntry_eq_none (absent : db.findEntry nodeNum = none) (inside : i.val < db.count)
    (used : (db.entries i).used = true) : (db.entries i).node.num ≠ nodeNum := by
  intro same
  have none := List.find?_eq_none.mp absent i (List.mem_finRange i)
  exact none (entryIs_iff.mpr ⟨inside, used, same⟩)

theorem oldestEvictableIndex_eq_some {nodeId : UInt32} (found : db.oldestEvictableIndex nodeId = some i) :
    (i.val < db.count ∧ (db.entries i).used = true ∧ (db.entries i).node.num ≠ nodeId) ∧
    ∀ j : Fin size, j.val < db.count → (db.entries j).used = true → (db.entries j).node.num ≠ nodeId →
      (db.entries i).node.lastHeard ≤ (db.entries j).node.lastHeard := by
  obtain ⟨member, least⟩ := Scan.firstLeast_eq_some found
  refine ⟨evictable_iff.mp (List.mem_filter.mp member).2, ?_⟩
  intro j inside used other
  apply UInt32.le_iff_toNat_le.mpr
  apply least
  exact List.mem_filter.mpr ⟨List.mem_finRange j, evictable_iff.mpr ⟨inside, used, other⟩⟩

end NodeDb

/-! ## What a packet does to the table -/

/-- The sender's entry is refreshed, appended or put in the place of the entry heard least recently, or the
table stays as it is. -/
inductive NodeDbChange (env : NodeDbEnv) (db : NodeDb env.maxNodes) (heard : Heard) : NodeDb env.maxNodes → Prop
  | ignored (own : heard.packet.from_ = 0 ∨ heard.packet.from_ = env.nodeId) : NodeDbChange env db heard db
  | refreshed (other : heard.packet.from_ ≠ 0 ∧ heard.packet.from_ ≠ env.nodeId) (i : Fin env.maxNodes)
      (found : db.findEntry heard.packet.from_ = some i) :
      NodeDbChange env db heard
        (db.withEntry i (applyPacket env (db.entries i) heard.packet (uptimeSeconds heard.uptimeMs)))
  | appended (other : heard.packet.from_ ≠ 0 ∧ heard.packet.from_ ≠ env.nodeId)
      (absent : db.findEntry heard.packet.from_ = none) (room : db.count < env.maxNodes) :
      NodeDbChange env db heard
        (NodeDb.withEntry { db with count := db.count + 1 } ⟨db.count, room⟩
          (applyPacket env (NodeDb.freshEntry heard.packet.from_) heard.packet (uptimeSeconds heard.uptimeMs)))
  | replaced (other : heard.packet.from_ ≠ 0 ∧ heard.packet.from_ ≠ env.nodeId)
      (absent : db.findEntry heard.packet.from_ = none) (full : ¬ db.count < env.maxNodes) (i : Fin env.maxNodes)
      (oldest : db.oldestEvictableIndex env.nodeId = some i) :
      NodeDbChange env db heard
        (db.withEntry i
          (applyPacket env (NodeDb.freshEntry heard.packet.from_) heard.packet (uptimeSeconds heard.uptimeMs)))
  | dropped (other : heard.packet.from_ ≠ 0 ∧ heard.packet.from_ ≠ env.nodeId)
      (absent : db.findEntry heard.packet.from_ = none) (full : ¬ db.count < env.maxNodes)
      (nothing : db.oldestEvictableIndex env.nodeId = none) : NodeDbChange env db heard db

theorem nodedbStep_change (env : NodeDbEnv) (db : NodeDb env.maxNodes) (heard : Heard) :
    NodeDbChange env db heard (nodedbStep env db heard) := by
  unfold nodedbStep nodedbOnPacket
  by_cases own : heard.packet.from_ = 0 ∨ heard.packet.from_ = env.nodeId
  · simp only [if_pos own]
    exact .ignored own
  · have other := not_or.mp own
    simp only [if_neg own, NodeDb.getOrCreateEntry, if_neg other.1]
    cases found : db.findEntry heard.packet.from_ with
    | some i => exact .refreshed other i found
    | none =>
      by_cases room : db.count < env.maxNodes
      · simp only [dif_pos room, NodeDb.withEntry, Function.update_self, Function.update_idem]
        exact .appended other found room
      · simp only [dif_neg room]
        cases oldest : db.oldestEvictableIndex env.nodeId with
        | none => exact .dropped other found room oldest
        | some i =>
          simp only [NodeDb.withEntry, Function.update_self, Function.update_idem]
          exact .replaced other found room i oldest

/-! ## The invariant -/

def localEntry (env : NodeDbEnv) (startMs : Nat) : NodeEntry :=
  applyUser { used := true, node := { num := env.nodeId, lastHeard := uptimeSeconds startMs } } (localUser env)

structure NodeDb.Valid (env : NodeDbEnv) (startMs : Nat) (db : NodeDb env.maxNodes) : Prop where
  count_le : db.count ≤ env.maxNodes
  used : ∀ i : Fin env.maxNodes, i.val < db.count → (db.entries i).used = true
  nonzero : ∀ i : Fin env.maxNodes, i.val < db.count → (db.entries i).node.num ≠ 0
  distinct : ∀ i j : Fin env.maxNodes, i.val < db.count → j.val < db.count →
    (db.entries i).node.num = (db.entries j).node.num → i = j
  own : ∃ i : Fin env.maxNodes, i.val < db.count ∧ db.entries i = localEntry env startMs

section
variable {env : NodeDbEnv} {startMs : Nat} {db : NodeDb env.maxNodes}

theorem localEntry_num : (localEntry env startMs).node.num = env.nodeId := rfl

theorem nodedbInit_eq (nonzero : env.nodeId ≠ 0) :
    nodedbInit env startMs =
      (none, { entries := Function.update (fun _ => {}) ⟨0, env.maxNodes_range.1⟩ (localEntry env startMs)
               count := 1 }) := by
  have absent : ({ entries := fun _ => {}, count := 0 } : NodeDb env.maxNodes).findEntry env.nodeId = none := by
    apply List.find?_eq_none.mpr
    intro i _
    simp [NodeDb.entryIs]
  have room : 0 < env.maxNodes := env.maxNodes_range.1
  simp only [nodedbInit, NodeDb.getOrCreateEntry, if_neg nonzero, absent, dif_pos room, NodeDb.withEntry,
    Function.update_self, Function.update_idem]
  rfl

theorem nodedbInit_valid (nonzero : env.nodeId ≠ 0) : (nodedbInit env startMs).2.Valid env startMs := by
  rw [nodedbInit_eq nonzero]
  have first : ∀ i : Fin env.maxNodes, i.val < 1 → i = ⟨0, env.maxNodes_range.1⟩ := by
    intro i inside
    apply Fin.ext
    simp only
    omega
  refine ⟨env.maxNodes_range.1, ?_, ?_, ?_, ⟨0, env.maxNodes_range.1⟩, Nat.one_pos, ?_⟩
  · intro i inside
    rw [first i inside]
    simp only [Function.update_self]
    rfl
  · intro i inside
    rw [first i inside]
    simp only [Function.update_self, localEntry_num]
    exact nonzero
  · intro i j insideI insideJ _
    rw [first i insideI, first j insideJ]
  · simp only [Function.update_self]

theorem NodeDb.Valid.withEntry (valid : db.Valid env startMs) {count : Nat} (grown : db.count ≤ count)
    (bound : count ≤ env.maxNodes) {i : Fin env.maxNodes}
    (filled : ∀ j : Fin env.maxNodes, j.val < count → j ≠ i → j.val < db.count) {entry : NodeEntry}
    (used : entry.used = true) (nonzero : entry.node.num ≠ 0)
    (fresh : ∀ j : Fin env.maxNodes, j.val < db.count → j ≠ i → (db.entries j).node.num ≠ entry.node.num)
    (other : i.val < db.count → (db.entries i).node.num ≠ env.nodeId) :
    (NodeDb.withEntry { db with count := count } i entry).Valid env startMs := by
  refine ⟨bound, ?_, ?_, ?_, ?_⟩
  · intro j within
    by_cases here : j = i
    · simp only [NodeDb.withEntry, here, Function.update_self, used]
    · simp only [NodeDb.withEntry, Function.update_of_ne here]
      exact valid.used j (filled j within here)
  · intro j within
    by_cases here : j = i
    · simp only [NodeDb.withEntry, here, Function.update_self]
      exact nonzero
    · simp only [NodeDb.withEntry, Function.update_of_ne here]
      exact valid.nonzero j (filled j within here)
  · intro j k withinJ withinK same
    by_cases hereJ : j = i
    · by_cases hereK : k = i
      · rw [hereJ, hereK]
      · simp only [NodeDb.withEntry, hereJ, Function.update_self, Function.update_of_ne hereK] at same
        exact absurd same.symm (fresh k (filled k withinK hereK) hereK)
    · by_cases hereK : k = i
      · simp only [NodeDb.withEntry, hereK, Function.update_self, Function.update_of_ne hereJ] at same
        exact absurd same (fresh j (filled j withinJ hereJ) hereJ)
      · simp only [NodeDb.withEntry, Function.update_of_ne hereJ, Function.update_of_ne hereK] at same
        exact valid.distinct j k (filled j withinJ hereJ) (filled k withinK hereK) same
  · obtain ⟨own, within, kept⟩ := valid.own
    have apart : own ≠ i := by
      intro same
      apply other (same ▸ within)
      rw [← same, kept, localEntry_num]
    refine ⟨own, Nat.lt_of_lt_of_le within grown, ?_⟩
    simp only [NodeDb.withEntry, Function.update_of_ne apart, kept]

theorem NodeDb.Valid.step (valid : db.Valid env startMs) (heard : Heard) :
    (nodedbStep env db heard).Valid env startMs ∧ db.count ≤ (nodedbStep env db heard).count := by
  have change := nodedbStep_change env db heard
  generalize nodedbStep env db heard = next at change
  cases change with
  | ignored own => exact ⟨valid, Nat.le_refl _⟩
  | refreshed other i found =>
    obtain ⟨inside, used, same⟩ := NodeDb.findEntry_eq_some found
    refine ⟨?_, Nat.le_refl _⟩
    apply valid.withEntry (Nat.le_refl _) valid.count_le (fun _ within _ => within)
    · rw [applyPacket_used, used]
    · rw [applyPacket_num, same]
      exact other.1
    · intro j within apart equal
      rw [applyPacket_num] at equal
      exact apart (valid.distinct j i within inside equal)
    · intro _
      rw [same]
      exact other.2
  | appended other absent room =>
    refine ⟨?_, Nat.le_succ _⟩
    apply valid.withEntry (Nat.le_succ _) room
    · intro j within apart
      have different : j.val ≠ db.count := fun same => apart (Fin.ext same)
      omega
    · rw [applyPacket_used]
      rfl
    · rw [applyPacket_num]
      exact other.1
    · intro j within _
      rw [applyPacket_num]
      exact NodeDb.findEntry_eq_none absent within (valid.used j within)
    · intro behind
      exact absurd behind (Nat.lt_irrefl _)
  | replaced other absent full i oldest =>
    obtain ⟨⟨inside, used, different⟩, -⟩ := NodeDb.oldestEvictableIndex_eq_some oldest
    refine ⟨?_, Nat.le_refl _⟩
    apply valid.withEntry (Nat.le_refl _) valid.count_le (fun _ within _ => within)
    · rw [applyPacket_used]
      rfl
    · rw [applyPacket_num]
      exact other.1
    · intro j within _
      rw [applyPacket_num]
      exact NodeDb.findEntry_eq_none absent within (valid.used j within)
    · exact fun _ => different
  | dropped other absent full nothing => exact ⟨valid, Nat.le_refl _⟩

theorem NodeDb.Valid.run (valid : db.Valid env startMs) (history : List Heard) :
    (history.foldl (nodedbStep env) db).Valid env startMs ∧ db.count ≤ (history.foldl (nodedbStep env) db).count := by
  induction history generalizing db with
  | nil => exact ⟨valid, Nat.le_refl _⟩
  | cons heard rest ih =>
    obtain ⟨next, grown⟩ := valid.step heard
    obtain ⟨last, grownLater⟩ := ih next
    exact ⟨last, Nat.le_trans grown grownLater⟩

theorem nodedbAfter_valid (nonzero : env.nodeId ≠ 0) (history : List Heard) :
    (nodedbAfter env startMs history).Valid env startMs :=
  ((nodedbInit_valid nonzero).run history).1

theorem NodeDb.Valid.findEntry (valid : db.Valid env startMs) {i : Fin env.maxNodes} (inside : i.val < db.count) :
    db.findEntry (db.entries i).node.num = some i := by
  cases found : db.findEntry (db.entries i).node.num with
  | none => exact absurd rfl (NodeDb.findEntry_eq_none found inside (valid.used i inside))
  | some j =>
    obtain ⟨within, -, same⟩ := NodeDb.findEntry_eq_some found
    rw [valid.distinct j i within inside same]

theorem NodeDb.Valid.get (valid : db.Valid env startMs) {i : Fin env.maxNodes} (inside : i.val < db.count) :
    nodedbGet db (db.entries i).node.num = .ok (fillSnapshot (db.entries i)) := by
  simp only [nodedbGet, valid.findEntry inside]

theorem NodeDb.Valid.getByIndex (valid : db.Valid env startMs) {i : Fin env.maxNodes} (inside : i.val < db.count) :
    nodedbGetByIndex db i.val = .ok (fillSnapshot (db.entries i)) := by
  have filled : ¬(db.count ≤ i.val ∨ (db.entries i).used = false) := by
    rw [valid.used i inside]
    simp only [Bool.true_eq_false, or_false, not_le]
    exact inside
  simp only [nodedbGetByIndex, i.isLt, dif_pos, if_neg filled]

theorem NodeDb.Valid.get_iff (valid : db.Valid env startMs) (nodeNum : UInt32) :
    (∃ snapshot, nodedbGet db nodeNum = .ok snapshot) ↔
      ∃ i : Fin env.maxNodes, i.val < db.count ∧ (db.entries i).node.num = nodeNum := by
  constructor
  · intro success
    obtain ⟨snapshot, got⟩ := success
    cases found : db.findEntry nodeNum with
    | none =>
      simp only [nodedbGet, found] at got
      cases got
    | some i =>
      obtain ⟨inside, -, same⟩ := NodeDb.findEntry_eq_some found
      exact ⟨i, inside, same⟩
  · intro present
    obtain ⟨i, inside, same⟩ := present
    rw [← same]
    exact ⟨_, valid.get inside⟩

theorem NodeDb.Valid.getOwn (valid : db.Valid env startMs) :
    nodedbGet db env.nodeId = .ok (fillSnapshot (localEntry env startMs)) := by
  obtain ⟨i, inside, kept⟩ := valid.own
  have got := valid.get inside
  rw [kept, localEntry_num] at got
  exact got

end

/-- After `meshtastic_nodedb_init` with a node id other than 0, any packets leave one used entry per number
below a count that only grows, the own entry untouched, and lookups by number and by index that agree. -/
theorem nodedb_representation (env : NodeDbEnv) (startMs : Nat) (nonzero : env.nodeId ≠ 0) (history : List Heard) :
    (nodedbInit env startMs).1 = none ∧
    (nodedbAfter env startMs history).count ≤ env.maxNodes ∧
    (∀ more, (nodedbAfter env startMs history).count ≤ (nodedbAfter env startMs (history ++ more)).count) ∧
    (∀ i : Fin env.maxNodes, i.val < (nodedbAfter env startMs history).count →
      ((nodedbAfter env startMs history).entries i).used = true ∧
      ((nodedbAfter env startMs history).entries i).node.num ≠ 0) ∧
    (∀ i j : Fin env.maxNodes, i.val < (nodedbAfter env startMs history).count →
      j.val < (nodedbAfter env startMs history).count →
      ((nodedbAfter env startMs history).entries i).node.num = ((nodedbAfter env startMs history).entries j).node.num →
      i = j) ∧
    (∃ snapshot, nodedbGet (nodedbAfter env startMs history) env.nodeId = .ok snapshot ∧
      snapshot.toNodeUser = NodeUser.ofMessage (localUser env)) ∧
    (∀ nodeNum, (∃ snapshot, nodedbGet (nodedbAfter env startMs history) nodeNum = .ok snapshot) ↔
      ∃ i : Fin env.maxNodes, i.val < (nodedbAfter env startMs history).count ∧
        ((nodedbAfter env startMs history).entries i).node.num = nodeNum) ∧
    (∀ i : Fin env.maxNodes, i.val < (nodedbAfter env startMs history).count →
      ∃ snapshot, nodedbGetByIndex (nodedbAfter env startMs history) i.val = .ok snapshot ∧
        nodedbGet (nodedbAfter env startMs history) ((nodedbAfter env startMs history).entries i).node.num =
          .ok snapshot) := by
  have valid := @nodedbAfter_valid env startMs nonzero history
  have grown : ∀ more,
      (nodedbAfter env startMs history).count ≤ (nodedbAfter env startMs (history ++ more)).count := by
    intro more
    rw [nodedbAfter, nodedbAfter, List.foldl_append]
    exact (valid.run more).2
  refine ⟨by rw [nodedbInit_eq nonzero], valid.count_le, grown, ?_, valid.distinct, ?_, valid.get_iff, ?_⟩
  · intro i inside
    exact ⟨valid.used i inside, valid.nonzero i inside⟩
  · exact ⟨_, valid.getOwn, fillSnapshot_applyUser _ _⟩
  · intro i inside
    exact ⟨_, valid.getByIndex inside, valid.get inside⟩

def twoNodes : NodeDbEnv :=
  { maxNodes := 2, maxNodes_range := by decide, nodeId := 0x22, longName := CString.empty,
    shortName := CString.empty, hwModel := 0, deviceRole := .client, decodeUser := fun _ => none,
    decodePosition := fun _ => none, decodeTelemetry := fun _ => none, decodeStatus := fun _ => none }

theorem nodedb_representation_full :
    (nodedbAfter twoNodes 0 [⟨{ from_ := 0x11 }, 1000⟩, ⟨{ from_ := 0x33 }, 2000⟩]).count = 2 ∧
    (nodedbAfter twoNodes 0 [⟨{ from_ := 0x11 }, 1000⟩, ⟨{ from_ := 0x33 }, 2000⟩]).count ≤ twoNodes.maxNodes :=
  ⟨rfl, (nodedb_representation twoNodes 0 (by decide) [⟨{ from_ := 0x11 }, 1000⟩, ⟨{ from_ := 0x33 }, 2000⟩]).2.1⟩

end Meshtastic
