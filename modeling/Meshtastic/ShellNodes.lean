import Meshtastic.NodeDbHistory
import Meshtastic.ShellConfig

/-! The listing of known nodes in `meshtastic_shell.c`. `nodedb list` looks the entries up one by one, while packets
that are heard in between change the table. -/

namespace Meshtastic
open Bytes

/-! ## Readings -/

def signedDecimal (number : Int) : Octets :=
  if number < 0 then ascii "-" ++ decimal number.natAbs else decimal number.natAbs

def scaledWhole (scaled divisor : Int) : Int := scaled.tdiv divisor

def scaledFraction (scaled divisor : Int) : Nat := (scaled.tmod divisor).natAbs

def printedTenths (scaled : Int) : Octets :=
  signedDecimal (scaledWhole scaled 10) ++ ascii "." ++ decimal (scaledFraction scaled 10)

def printedThousandths (scaled : Int) : Octets :=
  signedDecimal (scaledWhole scaled 1000) ++ ascii "." ++
    (Numeral.padded 10 3 (scaledFraction scaled 1000)).map hexDigit

/-- The build, and how it scales a floating-point reading, given by its bits: `(int32_t)(value * 10.0f)`. -/
structure ShellNodesBuild extends ShellBuild where
  scaledTenths : UInt32 → Int
  scaledThousandths : UInt32 → Int

/-! ## One node -/

def yesNo (value : Bool) : Octets := if value then ascii "yes" else ascii "no"

/-- `shell_print_node_summary`. The ratio of a node is a whole number of decibels. -/
def shellPrintNodeSummary (node : NodeSnapshot) : Octets :=
  hexNode node.num ++ (ascii " last=" ++ decimal node.lastHeardUptimeSec.toNat ++ ascii "s snr=" ++
    printedTenths (10 * node.snr) ++ ascii " hops=" ++
    (match node.hopsAway with
      | some hops => decimal hops.toNat
      | none => ascii "?") ++
    ascii " via=" ++ yesNo node.viaMqtt ++
    ascii " long=\"" ++ (if node.hasUser then node.longName.bytes else []) ++
    ascii "\" short=\"" ++ (if node.hasUser then node.shortName.bytes else []) ++ ascii "\"")

section
variable (build : ShellNodesBuild)

def shellPrintOptionalVoltage (label : String) (value : Option UInt32) : List Octets :=
  value.toList.map fun bits => ascii label ++ ascii ": " ++ printedThousandths (build.scaledThousandths bits)

def shellPrintOptionalTenths (label : String) (value : Option UInt32) : List Octets :=
  value.toList.map fun bits => ascii label ++ ascii ": " ++ printedTenths (build.scaledTenths bits)

def shownNode (node : NodeSnapshot) : List Octets :=
  [ascii "node: " ++ hexNode node.num, ascii "last heard: " ++ decimal node.lastHeardUptimeSec.toNat ++ ascii "s",
    ascii "snr: " ++ printedTenths (10 * node.snr), ascii "channel: " ++ decimal node.channel.toNat,
    ascii "next hop: 0x" ++ hexByte node.nextHop, ascii "via mqtt: " ++ yesNo node.viaMqtt] ++
  (node.hopsAway.toList.map fun hops => ascii "hops away: " ++ decimal hops.toNat) ++
  (if node.hasUser then
    [ascii "long name: " ++ node.longName.bytes, ascii "short name: " ++ node.shortName.bytes,
      ascii "hw model: " ++ decimal node.hwModel.toNat, ascii "role: " ++ decimal node.role.toNat,
      ascii "licensed: " ++ yesNo node.isLicensed] ++
    (if node.hasIsUnmessagable then [ascii "unmessagable: " ++ yesNo node.isUnmessagable] else []) ++
    [ascii "public key bytes: " ++ decimal node.publicKey.length]
  else []) ++
  (node.position.toList.map fun position =>
    ascii "position: lat_i=" ++ signedDecimal position.latitudeI ++ ascii " lon_i=" ++
      signedDecimal position.longitudeI ++ ascii " alt=" ++ signedDecimal position.altitude ++ ascii " time=" ++
      decimal position.time.toNat ++ ascii " precision=" ++ decimal position.precisionBits.toNat) ++
  (node.deviceMetrics.toList.flatMap fun metrics =>
    (metrics.batteryLevel.toList.map fun level => ascii "battery: " ++ decimal level.toNat ++ ascii "%") ++
    shellPrintOptionalVoltage build "voltage" metrics.voltage ++
    metrics.uptimeSeconds.toList.map fun seconds => ascii "uptime: " ++ decimal seconds.toNat ++ ascii "s") ++
  (node.environmentMetrics.toList.flatMap fun metrics =>
    shellPrintOptionalTenths build "temperature" metrics.temperature ++
    shellPrintOptionalTenths build "humidity" metrics.relativeHumidity ++
    shellPrintOptionalTenths build "pressure" metrics.barometricPressure) ++
  node.status.toList.map fun status => ascii "status: " ++ status.bytes

/-! ## The commands -/

/-- `cmd_nodedb_list`, with the table as it is at the count and then at each of the lookups. -/
def cmdNodedbList {size : Nat} (tables : Nat → NodeDb size) : ShellAnswer :=
  { lines := (ascii "nodes: " ++ decimal (tables 0).count) :: (List.range (tables 0).count).map fun i =>
      match nodedbGetByIndex (tables (i + 1)) i with
      | .error err =>
        ascii "index " ++ decimal i ++ ascii " unavailable (-" ++ decimal (build.errnoOf err) ++ ascii ")"
      | .ok node => shellPrintNodeSummary node }

def cmdNodedbShow {size : Nat} (db : NodeDb size) : List CString → ShellAnswer
  | [_, target] =>
    match parseU32 build.toStoreBuild target with
    | .error line => refused line
    | .ok nodeNum =>
      match nodedbGet db nodeNum with
      | .error err => { lines := [ascii "node " ++ hexNode nodeNum ++ ascii " not found"], code := some err }
      | .ok node => { lines := shownNode build node }
  | _ => refused (ascii "usage: meshtastic nodedb show <node|0xnode>")

end

/-! ## While packets are heard -/

def tablesDuring (env : NodeDbEnv) (db : NodeDb env.maxNodes) (heard : Nat → List Heard) : Nat → NodeDb env.maxNodes
  | 0 => db
  | i + 1 => (heard i).foldl (nodedbStep env) (tablesDuring env db heard i)

def NodeDb.Knows {size : Nat} (db : NodeDb size) (nodeNum : UInt32) : Prop :=
  ∃ snapshot, nodedbGet db nodeNum = .ok snapshot

def Stays (env : NodeDbEnv) (nodeNum : UInt32) (db : NodeDb env.maxNodes) (heard : List Heard) : Prop :=
  ∀ part, part <+: heard → (part.foldl (nodedbStep env) db).Knows nodeNum

section
variable {env : NodeDbEnv} {startMs : Nat} {db : NodeDb env.maxNodes} {nodeNum : UInt32} {i : Fin env.maxNodes}

theorem NodeDb.Valid.holds_step (valid : db.Valid env startMs) (heard : Heard) (here : db.Holds nodeNum i)
    (still : (nodedbStep env db heard).Knows nodeNum) : (nodedbStep env db heard).Holds nodeNum i := by
  obtain ⟨nextValid, grown⟩ := valid.step heard
  have kept : ∀ k, db.SameBut (nodedbStep env db heard) k → i ≠ k → (nodedbStep env db heard).Holds nodeNum i := by
    intro k rest apart
    refine ⟨Nat.lt_of_lt_of_le here.1 grown, ?_⟩
    rw [rest i apart]
    exact here.2
  obtain ⟨j, found⟩ := (nextValid.get_iff nodeNum).mp still
  have change := nodedbStep_change env db heard
  generalize nodedbStep env db heard = next at *
  cases change with
  | ignored own => exact here
  | dropped other absent full nothing => exact here
  | appended other absent room =>
    refine kept _ (NodeDb.sameBut_withEntry _ _ _) ?_
    intro same
    have behind : i.val = db.count := by rw [same]
    exact Nat.ne_of_lt here.1 behind
  | refreshed other k sender =>
    by_cases place : i = k
    · have written := NodeDb.holds_withEntry db (place ▸ here.1 : k.val < db.count)
        (applyPacket env (db.entries k) heard.packet (uptimeSeconds heard.uptimeMs))
      rw [applyPacket_num, ← place, here.2] at written
      rw [← place]
      exact written
    · exact kept k (NodeDb.sameBut_withEntry _ _ _) place
  | replaced other absent full k oldest =>
    by_cases place : i = k
    · have written := NodeDb.holds_withEntry db (place ▸ here.1 : k.val < db.count)
        (applyPacket env (NodeDb.freshEntry heard.packet.from_) heard.packet (uptimeSeconds heard.uptimeMs))
      have rest := @NodeDb.sameBut_withEntry env db db.count k
        (applyPacket env (NodeDb.freshEntry heard.packet.from_) heard.packet (uptimeSeconds heard.uptimeMs))
      rw [applyPacket_num] at written
      by_cases again : j = k
      · -- The packet that takes the place of a node is from another one.
        have sender : heard.packet.from_ = nodeNum := by
          rw [← found.2, again]
          exact written.2.symm
        rw [sender] at absent
        exact absurd here (valid.not_holds absent i)
      · have number : (db.entries j).node.num = nodeNum := by
          rw [← found.2]
          exact congrArg (fun entry => entry.node.num) (rest j again).symm
        exact absurd ((valid.distinct j i found.1 here.1 (number.trans here.2.symm)).trans place) again
    · exact kept k (NodeDb.sameBut_withEntry _ _ _) place

theorem NodeDb.Valid.holds_run (valid : db.Valid env startMs) {heard : List Heard} (here : db.Holds nodeNum i)
    (stays : Stays env nodeNum db heard) : (heard.foldl (nodedbStep env) db).Holds nodeNum i := by
  induction heard generalizing db with
  | nil => exact here
  | cons first rest ih =>
    apply ih (valid.step first).1
    · exact valid.holds_step first here (stays [first] (List.prefix_append [first] rest))
    · intro part front
      exact stays (first :: part) (List.cons_prefix_cons.mpr ⟨rfl, front⟩)

theorem NodeDb.Valid.own_stays (valid : db.Valid env startMs) (heard : List Heard) : Stays env env.nodeId db heard :=
  fun part _ => ⟨_, (valid.run part).1.getOwn⟩

/-! ## The tables of a listing -/

variable {heard : Nat → List Heard}

theorem tablesDuring_valid (valid : db.Valid env startMs) (k : Nat) :
    (tablesDuring env db heard k).Valid env startMs ∧ db.count ≤ (tablesDuring env db heard k).count := by
  induction k with
  | zero => exact ⟨valid, Nat.le_refl _⟩
  | succ k ih =>
    obtain ⟨next, grown⟩ := ih.1.run (heard k)
    exact ⟨next, Nat.le_trans ih.2 grown⟩

theorem tablesDuring_holds (valid : db.Valid env startMs) (here : db.Holds nodeNum i) {k : Nat}
    (stays : ∀ j < k, Stays env nodeNum (tablesDuring env db heard j) (heard j)) :
    (tablesDuring env db heard k).Holds nodeNum i := by
  induction k with
  | zero => exact here
  | succ k ih =>
    exact (tablesDuring_valid valid k).1.holds_run (ih fun j before => stays j (Nat.lt_succ_of_lt before))
      (stays k (Nat.lt_succ_self k))

end

def listedNode {env : NodeDbEnv} (db : NodeDb env.maxNodes) (heard : Nat → List Heard) (i : Nat) : NodeSnapshot :=
  if inside : i < env.maxNodes then fillSnapshot ((tablesDuring env db heard (i + 1)).entries ⟨i, inside⟩)
  else fillSnapshot {}

section
variable {env : NodeDbEnv} {startMs : Nat} {db : NodeDb env.maxNodes} {nodeNum : UInt32} {heard : Nat → List Heard}

theorem listedNode_found (valid : db.Valid env startMs) {i : Nat} (below : i < db.count) :
    nodedbGetByIndex (tablesDuring env db heard (i + 1)) i = .ok (listedNode db heard i) := by
  obtain ⟨next, grown⟩ := @tablesDuring_valid env startMs db heard valid (i + 1)
  have inside : i < env.maxNodes := Nat.lt_of_lt_of_le below valid.count_le
  rw [listedNode, dif_pos inside]
  exact @NodeDb.Valid.getByIndex env startMs _ next ⟨i, inside⟩ (Nat.lt_of_lt_of_le below grown)

theorem listedNode_num_iff (valid : db.Valid env startMs) {place : Fin env.maxNodes} (here : db.Holds nodeNum place)
    (stays : ∀ k < db.count, Stays env nodeNum (tablesDuring env db heard k) (heard k)) {i : Nat}
    (below : i < db.count) : (listedNode db heard i).num = nodeNum ↔ i = place.val := by
  obtain ⟨next, grown⟩ := @tablesDuring_valid env startMs db heard valid (i + 1)
  have inside : i < env.maxNodes := Nat.lt_of_lt_of_le below valid.count_le
  have now := tablesDuring_holds valid here (k := i + 1) fun k before => stays k (by omega)
  rw [listedNode, dif_pos inside]
  constructor
  · intro number
    have same := next.distinct ⟨i, inside⟩ place (Nat.lt_of_lt_of_le below grown) now.1 (number.trans now.2.symm)
    exact congrArg Fin.val same
  · intro same
    have this : (⟨i, inside⟩ : Fin env.maxNodes) = place := Fin.ext same
    rw [this]
    exact now.2

theorem hexNode_length (nodeId : UInt32) : (hexNode nodeId).length = 10 := by
  rw [hexNode, List.length_append, hexDigits_eq_padded, List.length_map, Numeral.padded_length]
  rfl

theorem shellPrintNodeSummary_take (node : NodeSnapshot) : (shellPrintNodeSummary node).take 10 = hexNode node.num := by
  rw [shellPrintNodeSummary, List.take_left' (hexNode_length node.num)]

/-- From what any packets have made of the table, and whatever is heard while `nodedb list` looks its entries up: each
line is a node as it is when its place is looked up, none is reported as unavailable, and a node that is known all the
while, as the own one always is, has exactly one line; the front of that line, typed behind `nodedb show`, shows it. -/
theorem nodedb_list_finds (build : ShellNodesBuild) (env : NodeDbEnv) (startMs : Nat) (nonzero : env.nodeId ≠ 0)
    (history : List Heard) (heard : Nat → List Heard) :
    ∃ listed : Nat → NodeSnapshot,
      (cmdNodedbList build (tablesDuring env (nodedbAfter env startMs history) heard)).lines =
        (ascii "nodes: " ++ decimal (nodedbAfter env startMs history).count) ::
          (List.range (nodedbAfter env startMs history).count).map (fun i => shellPrintNodeSummary (listed i)) ∧
      (∀ i < (nodedbAfter env startMs history).count,
        nodedbGetByIndex (tablesDuring env (nodedbAfter env startMs history) heard (i + 1)) i = .ok (listed i)) ∧
      (∀ k, Stays env env.nodeId (tablesDuring env (nodedbAfter env startMs history) heard k) (heard k)) ∧
      ∀ nodeNum, (nodedbAfter env startMs history).Knows nodeNum →
        (∀ k < (nodedbAfter env startMs history).count,
          Stays env nodeNum (tablesDuring env (nodedbAfter env startMs history) heard k) (heard k)) →
        ∃ i < (nodedbAfter env startMs history).count, (listed i).num = nodeNum ∧
          (∀ j < (nodedbAfter env startMs history).count, (listed j).num = nodeNum → j = i) ∧
          ∃ node, nodedbGet (tablesDuring env (nodedbAfter env startMs history) heard
              (nodedbAfter env startMs history).count) nodeNum = .ok node ∧
            ∀ front word : CString, word.bytes = (shellPrintNodeSummary (listed i)).take 10 →
              cmdNodedbShow build (tablesDuring env (nodedbAfter env startMs history) heard
                (nodedbAfter env startMs history).count) [front, word] = { lines := shownNode build node } := by
  have valid := @nodedbAfter_valid env startMs nonzero history
  generalize nodedbAfter env startMs history = db at valid
  refine ⟨listedNode db heard, ?_, fun i below => listedNode_found valid below,
    fun k => (tablesDuring_valid valid k).1.own_stays (heard k), ?_⟩
  · simp only [cmdNodedbList, tablesDuring]
    congr 1
    apply List.map_congr_left
    intro i member
    have found := @listedNode_found env startMs db heard valid i (List.mem_range.mp member)
    simp only [tablesDuring] at found
    rw [found]
  · intro nodeNum known stays
    obtain ⟨place, here⟩ := (valid.get_iff nodeNum).mp known
    have number := (listedNode_num_iff valid here stays here.1).mpr rfl
    refine ⟨place.val, here.1, number, fun j below => (listedNode_num_iff valid here stays below).mp, ?_⟩
    have last := tablesDuring_holds valid here stays
    obtain ⟨node, got⟩ := ((tablesDuring_valid valid db.count).1.get_iff nodeNum).mpr ⟨place, last⟩
    refine ⟨node, got, ?_⟩
    intro front word typed
    rw [shellPrintNodeSummary_take, number] at typed
    simp only [cmdNodedbShow, parseU32_hexNode typed, got]

theorem nodedb_list_finds_replaced :
    ∃ listed : Nat → NodeSnapshot,
      (cmdNodedbList ⟨plainShell, fun _ => 0, fun _ => 0⟩
        (tablesDuring twoNodes (nodedbAfter twoNodes 0 [⟨{ from_ := 0x11 }, 1000⟩])
          fun k => if k = 1 then [⟨{ from_ := 0x33 }, 2000⟩] else [])).lines =
        ascii "nodes: 2" :: [shellPrintNodeSummary (listed 0), shellPrintNodeSummary (listed 1)] ∧
      (listed 0).num = 0x22 ∧ (listed 1).num = 0x33 := by
  obtain ⟨listed, lines, found, -⟩ := nodedb_list_finds ⟨plainShell, fun _ => 0, fun _ => 0⟩ twoNodes 0 (by decide)
    [⟨{ from_ := 0x11 }, 1000⟩] fun k => if k = 1 then [⟨{ from_ := 0x33 }, 2000⟩] else []
  refine ⟨listed, lines, ?_, ?_⟩
  · exact congrArg NodeSnapshot.num (Except.ok.inj ((found 0 (by decide)).symm.trans rfl))
  · exact congrArg NodeSnapshot.num (Except.ok.inj ((found 1 (by decide)).symm.trans rfl))

end

end Meshtastic
