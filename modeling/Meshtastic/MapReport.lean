import Meshtastic.Lib.Grid
import Meshtastic.Gnss
import Meshtastic.Mqtt
import Meshtastic.StoreValidity
import Mathlib.Tactic.NormNum
import Mathlib.Tactic.Positivity
import Mathlib.Tactic.Ring

/-! Map reports (`meshtastic_mqtt.c`). While it is connected to the broker, a gateway tells the public map where it
is, not more often than the interval and not more exactly than the precision of the build. -/

namespace Meshtastic
open Bytes Spacing

def PORT_MAP_REPORT : UInt32 := 73
def MAP_TOPIC_SUFFIX : Octets := ascii "/2/map/"

/-! ## Reports -/

structure MapReport where
  longName : CString
  shortName : CString
  role : DeviceRole
  hwModel : Nat
  firmwareVersion : CString
  region : RegionCode
  modemPreset : Nat := 0
  hasDefaultChannel : Bool
  latitudeI : Int32 := 0
  longitudeI : Int32 := 0
  altitude : Int32 := 0
  positionPrecision : UInt32
  numOnlineLocalNodes : UInt32 := 0
  hasOptedReportLocation : Bool := true
  deriving DecidableEq

structure MapIdentity where
  longName : CString
  shortName : CString
  role : DeviceRole
  hwModel : Nat
  kernelVersion : CString
  frequency : UInt32
  hopLimit : UInt8
  table : ChannelTable
  nodeId : UInt32

structure MapBuild extends MqttConfig where
  intervalSec : Nat
  positionPrecision : UInt32
  encode : MapReport → Octets
  envelopes : EnvelopeCodec
  intervalSec_range : 60 ≤ intervalSec ∧ intervalSec ≤ 86400

def MapBuild.intervalMs (build : MapBuild) : Int := build.intervalSec * MSEC_PER_SEC

/-- `mqtt_lora_region` tells regions apart as the store does. -/
def mqttLoraRegion (hz : UInt32) : RegionCode := loraRegionFromFrequency hz

/-- `none` means that the key lookup never returns. -/
def mqttHasDefaultChannel (t : ChannelTable) : Option Bool :=
  if (t.channelSlots t.primaryIndex).role = .disabled then some false
  else if runtimeChannelName t ≠ CHANNEL_LONGFAST then some false
  else (channelGetKey t.channelSlots t.primaryIndex t.primaryIndex).map fun key =>
    match key with
    | .error _ => false
    | .ok key => key = defaultPsk

def mqttMapPositionPrecision (configured : UInt32) : UInt32 :=
  if configured < 12 ∨ configured > 15 then 14 else configured

/-- `mqtt_apply_map_position_precision` on one of the two coordinates. -/
def mqttApplyMapPositionPrecision (coordinate : Int32) (precision : UInt32) : Int32 :=
  if precision ≥ 32 then coordinate
  else (coordinate &&& ((0xFFFFFFFF : UInt32) <<< (32 - precision)).toInt32) + ((1 : UInt32) <<< (31 - precision)).toInt32

section
variable (build : MapBuild)

def mqttBuildMapReport (identity : MapIdentity) (position : GnssPosition) : Option MapReport :=
  (mqttHasDefaultChannel identity.table).map fun hasDefaultChannel =>
    let precision := mqttMapPositionPrecision build.positionPrecision
    let report : MapReport :=
      { longName := identity.longName.truncate 39
        shortName := identity.shortName.truncate 4
        role := identity.role
        hwModel := identity.hwModel
        firmwareVersion := identity.kernelVersion.truncate 17
        region := mqttLoraRegion identity.frequency
        hasDefaultChannel := hasDefaultChannel
        positionPrecision := precision }
    match position.latitudeI, position.longitudeI with
    | some latitude, some longitude =>
      { report with
        latitudeI := mqttApplyMapPositionPrecision latitude precision
        longitudeI := mqttApplyMapPositionPrecision longitude precision
        altitude := position.altitude.getD 0 }
    | _, _ => report

def mqttBuildMapTopic : Octets := (build.root.truncate (MQTT_PREFIX_SIZE - 1)).bytes ++ MAP_TOPIC_SUFFIX

def mqttMapEnvelope (identity : MapIdentity) (now : Int) (report : MapReport) : Option Octets :=
  if (build.encode report).length > MAX_PAYLOAD_LEN then none
  else
    let mesh : ReportedMeshPacket :=
      { payload := .decoded { portnum := PORT_MAP_REPORT, payload := build.encode report }
        from_ := identity.nodeId
        to_ := NODE_BROADCAST
        id := UInt32.ofNat (now % 2 ^ 32).toNat
        hopLimit := identity.hopLimit
        hopStart := identity.hopLimit }
    let envelope := build.envelopes.encode
      { packet := some mesh, channelId := some (runtimeChannelName identity.table),
        gatewayId := some (mqttNodeIdStr identity.nodeId) }
    if envelope.length > build.txBufferSize then none else some envelope

end

/-! ## Reporting -/

/-- A report on its way to the broker. `direct` tells whether `mqtt_publish` took it; if not, it was passed to
`mqtt_queue_publish`. -/
structure MapPublication where
  time : Int
  position : GnssPosition
  report : MapReport
  entry : MqttPubEntry
  direct : Bool

structure MapCall where
  now : Int
  connected : Bool
  identity : MapIdentity
  /-- what `meshtastic_gnss_get_last_position` gives -/
  position : Option GnssPosition
  /-- what `mqtt_publish` returns -/
  answer : Option Errno

/-- `last_map_report_ms`, with the clock and all publications, newest first, which the code does not keep. -/
structure MapReporter where
  lastMapReportMs : Int := 0
  clock : Int := 0
  publications : List MapPublication := []

namespace MapReporter

section
variable (build : MapBuild)

def mqttPerhapsReportToMap (state : MapReporter) (call : MapCall) : Option MapReporter :=
  if call.connected = false then some state
  else if state.lastMapReportMs ≠ 0 ∧ call.now - state.lastMapReportMs < build.intervalMs then some state
  else
    match call.position with
    | none => some state
    | some position =>
      if position.latitudeI = none ∨ position.longitudeI = none ∨
          position.latitudeI = some 0 ∧ position.longitudeI = some 0 then some state
      else
        (mqttBuildMapReport build call.identity position).map fun report =>
          match mqttMapEnvelope build call.identity call.now report with
          | none => state
          | some payload =>
            { state with
              lastMapReportMs := call.now
              publications := ⟨call.now, position, report, ⟨mqttBuildMapTopic build, payload⟩, call.answer.isNone⟩ ::
                state.publications }

def step (state : MapReporter) (call : MapCall) : Option MapReporter :=
  if call.now < state.clock then none else { state with clock := call.now }.mqttPerhapsReportToMap build call

end

end MapReporter

/-! ## Precision -/

theorem masked_toNat (value : BitVec 32) (shift : Nat) :
    (value &&& BitVec.allOnes 32 <<< shift).toNat = 2 ^ shift * (value.toNat / 2 ^ shift) := by
  rw [← BitVec.shiftLeft_ushiftRight, BitVec.toNat_shiftLeft, BitVec.toNat_ushiftRight, Nat.shiftLeft_eq,
    Nat.shiftRight_eq_div_pow, Nat.mul_comm]
  apply Nat.mod_eq_of_lt
  have below := value.isLt
  have bound := Nat.mul_div_le value.toNat (2 ^ shift)
  omega

theorem masked_toInt (value : BitVec 32) {shift : Nat} (small : shift < 32) :
    (value &&& BitVec.allOnes 32 <<< shift).toInt = 2 ^ shift * (value.toInt / 2 ^ shift) := by
  have positive : (0 : Int) < 2 ^ shift := by positivity
  have whole : (2 : Int) ^ shift * 2 ^ (31 - shift) = 2 ^ 31 := by
    rw [← pow_add, Nat.add_sub_cancel' (by omega)]
  have masked : ((value &&& BitVec.allOnes 32 <<< shift).toNat : Int) = 2 ^ shift * ((value.toNat : Int) / 2 ^ shift) := by
    rw [masked_toNat value shift]
    push_cast
    rfl
  have bounds := Grid.cell_bounds positive (value.toNat : Int)
  unfold Grid.cell at bounds
  rw [BitVec.toInt_eq_toNat_cond, BitVec.toInt_eq_toNat_cond, masked]
  by_cases low : 2 * value.toNat < 2 ^ 32
  · rw [if_pos low, if_pos (by omega)]
  · have above : (2 : Int) ^ (31 - shift) ≤ (value.toNat : Int) / 2 ^ shift := by
      apply (Int.le_ediv_iff_mul_le positive).mpr
      rw [Int.mul_comm, whole]
      omega
    have high := Int.mul_le_mul_of_nonneg_left above (Int.le_of_lt positive)
    rw [whole] at high
    have wrapped : (value.toNat : Int) - ((2 ^ 32 : Nat) : Int) = value.toNat + 2 ^ shift * (-2 * 2 ^ (31 - shift)) := by
      have double : (2 : Int) ^ shift * (-2 * 2 ^ (31 - shift)) = -2 * (2 ^ shift * 2 ^ (31 - shift)) := by ring
      rw [double, whole]
      omega
    rw [if_neg low, if_neg (by omega), wrapped, Int.add_mul_ediv_left _ _ (Int.ne_of_gt positive), Int.mul_add]
    have double : (2 : Int) ^ shift * (-2 * 2 ^ (31 - shift)) = -2 * (2 ^ shift * 2 ^ (31 - shift)) := by ring
    rw [double, whole]
    omega

theorem shifted (value : UInt32) {top precision : UInt32} {count : Nat} (amount : precision.toNat + count = top.toNat)
    (small : count < 32) : (value <<< (top - precision)).toInt32.toBitVec = value.toBitVec <<< count := by
  have difference : (top - precision).toNat = count := by
    rw [UInt32.toNat_sub_of_le _ _ (UInt32.le_iff_toNat_le.mpr (by omega))]
    omega
  rw [UInt32.toBitVec_toInt32, UInt32.toBitVec_shiftLeft, BitVec.shiftLeft_eq', BitVec.toNat_umod]
  change value.toBitVec <<< ((top - precision).toNat % 32) = _
  rw [difference, Nat.mod_eq_of_lt small]

theorem one_shifted {count : Nat} (small : count < 31) : ((1 : BitVec 32) <<< count).toInt = 2 ^ count := by
  have below : 2 ^ count < 2 ^ 31 := Nat.pow_lt_pow_right (by decide) small
  have bits : ((1 : BitVec 32) <<< count).toNat = 2 ^ count := by
    rw [BitVec.toNat_shiftLeft, Nat.shiftLeft_eq]
    change 1 * 2 ^ count % 2 ^ 32 = _
    omega
  rw [BitVec.toInt_eq_toNat_cond, bits, if_pos (by omega)]
  push_cast
  rfl

/-- A coordinate becomes the centre of its cell; the addition does not overflow. -/
theorem mqttApplyMapPositionPrecision_toInt (value : Int32) {precision : UInt32} (coarse : 1 ≤ precision.toNat)
    (few : precision.toNat ≤ 31) :
    (mqttApplyMapPositionPrecision value precision).toInt = Grid.centre (2 ^ (32 - precision.toNat)) value.toInt := by
  obtain ⟨half, split⟩ : ∃ half, 32 - precision.toNat = half + 1 := ⟨31 - precision.toNat, by omega⟩
  have positive : (0 : Int) < 2 ^ (half + 1) := by positivity
  have masked : (value &&& ((0xFFFFFFFF : UInt32) <<< (32 - precision)).toInt32).toInt =
      2 ^ (half + 1) * (value.toInt / 2 ^ (half + 1)) := by
    have amount : precision.toNat + (half + 1) = (32 : UInt32).toNat := by
      change _ = 32
      omega
    rw [← Int32.toInt_toBitVec, Int32.toBitVec_and, shifted 0xFFFFFFFF amount (by omega)]
    exact masked_toInt value.toBitVec (by omega)
  have middle : (((1 : UInt32) <<< (31 - precision)).toInt32).toInt = 2 ^ half := by
    have amount : precision.toNat + half = (31 : UInt32).toNat := by
      change _ = 31
      omega
    rw [← Int32.toInt_toBitVec, shifted 1 amount (by omega)]
    exact one_shifted (by omega)
  have whole : (2 : Int) ^ (half + 1) * 2 ^ (30 - half) = 2 ^ 31 := by
    rw [← pow_add]
    congr 1
    omega
  have centre : Grid.centre (2 ^ (half + 1)) value.toInt = 2 ^ (half + 1) * (value.toInt / 2 ^ (half + 1)) + 2 ^ half := by
    rw [Grid.centre, Grid.cell, pow_succ, Int.mul_ediv_cancel _ (by decide)]
  have inside : 2 ^ (half + 1) * -2 ^ (30 - half) ≤ value.toInt ∧ value.toInt < 2 ^ (half + 1) * 2 ^ (30 - half) := by
    rw [Int.mul_neg, whole]
    exact ⟨Int32.le_toInt value, Int32.toInt_lt value⟩
  have range := Grid.centre_range positive inside
  rw [Int.mul_neg, whole] at range
  have precise : ¬ precision ≥ 32 := by
    rw [ge_iff_le, UInt32.le_iff_toNat_le]
    exact Nat.not_le.mpr (Nat.lt_succ_of_le few)
  rw [mqttApplyMapPositionPrecision, if_neg precise, Int32.toInt_add, masked, middle, split, ← centre]
  apply Int.bmod_eq_of_le
  · exact range.1
  · exact range.2

theorem mqttMapPositionPrecision_range (configured : UInt32) :
    12 ≤ (mqttMapPositionPrecision configured).toNat ∧ (mqttMapPositionPrecision configured).toNat ≤ 15 := by
  unfold mqttMapPositionPrecision
  split_ifs with outside
  · decide
  · rw [not_or, UInt32.lt_iff_toNat_lt, gt_iff_lt, UInt32.lt_iff_toNat_lt] at outside
    exact ⟨Nat.not_lt.mp outside.1, Nat.not_lt.mp outside.2⟩

def cellSize (precision : UInt32) : Int := 2 ^ (32 - precision.toNat)

/-- The report shows of latitude and longitude the cell they lie in, and the altitude as it is. -/
structure MapReport.Shows (report : MapReport) (position : GnssPosition) : Prop where
  precision : 12 ≤ report.positionPrecision.toNat ∧ report.positionPrecision.toNat ≤ 15
  latitude : ∀ latitude, position.latitudeI = some latitude →
    report.latitudeI.toInt = Grid.centre (cellSize report.positionPrecision) latitude.toInt
  longitude : ∀ longitude, position.longitudeI = some longitude →
    report.longitudeI.toInt = Grid.centre (cellSize report.positionPrecision) longitude.toInt
  altitude : report.altitude = position.altitude.getD 0

theorem mqttBuildMapReport_shows {build : MapBuild} {identity : MapIdentity} {position : GnssPosition} {report : MapReport}
    (located : position.latitudeI ≠ none ∧ position.longitudeI ≠ none)
    (built : mqttBuildMapReport build identity position = some report) :
    report.positionPrecision = mqttMapPositionPrecision build.positionPrecision ∧ report.Shows position := by
  have range := mqttMapPositionPrecision_range build.positionPrecision
  obtain ⟨latitude, lat⟩ := Option.ne_none_iff_exists'.mp located.1
  obtain ⟨longitude, long⟩ := Option.ne_none_iff_exists'.mp located.2
  obtain ⟨hasDefaultChannel, -, same⟩ := Option.map_eq_some_iff.mp built
  rw [lat, long] at same
  cases same
  refine ⟨rfl, range, ?_, ?_, rfl⟩
  · intro here present
    rw [lat] at present
    cases present
    exact mqttApplyMapPositionPrecision_toInt latitude (by omega) (by omega)
  · intro here present
    rw [long] at present
    cases present
    exact mqttApplyMapPositionPrecision_toInt longitude (by omega) (by omega)

/-! ## Runs -/

def reportTimes (publications : List MapPublication) : List Int := (publications.map MapPublication.time).filter (· ≠ 0)

/-- Enough time has passed since the reports before. -/
def MapPublication.MayFollow (build : MapBuild) (publication : MapPublication) (older : List MapPublication) : Prop :=
  Elapsed build.intervalMs publication.time (reportTimes older)

namespace MapReporter

def CanReport (build : MapBuild) (call : MapCall) (position : GnssPosition) (report : MapReport)
    (payload : Octets) : Prop :=
  call.connected = true ∧ call.position = some position ∧
    (position.latitudeI ≠ none ∧ position.longitudeI ≠ none) ∧
    ¬ (position.latitudeI = some 0 ∧ position.longitudeI = some 0) ∧
    mqttBuildMapReport build call.identity position = some report ∧
    mqttMapEnvelope build call.identity call.now report = some payload

structure Kept (build : MapBuild) (state : MapReporter) : Prop where
  stamp : Stamp 0 state.lastMapReportMs (reportTimes state.publications)
  times : ∀ time ∈ reportTimes state.publications, 0 < time ∧ time ≤ state.clock
  running : 0 ≤ state.clock
  spaced : History.Lawful (MapPublication.MayFollow build) state.publications
  shown : ∀ publication ∈ state.publications,
    publication.report.positionPrecision = mqttMapPositionPrecision build.positionPrecision ∧
      (publication.position.latitudeI ≠ none ∧ publication.position.longitudeI ≠ none) ∧
      publication.report.Shows publication.position

section
variable {build : MapBuild} {state next : MapReporter} {call : MapCall}

theorem Kept.due_iff (kept : state.Kept build) (now : Int) :
    ¬ (state.lastMapReportMs ≠ 0 ∧ now - state.lastMapReportMs < build.intervalMs) ↔
      Elapsed build.intervalMs now (reportTimes state.publications) := by
  have absent : (0 : Int) ∉ reportTimes state.publications := fun present => Int.lt_irrefl 0 (kept.times 0 present).1
  rw [not_and_or, not_not, not_lt]
  exact kept.stamp.elapsed_or_never_iff absent

theorem Kept.perhaps (kept : state.Kept build) (done : state.mqttPerhapsReportToMap build call = some next) :
    (∃ position report payload, CanReport build call position report payload ∧
      Elapsed build.intervalMs call.now (reportTimes state.publications) ∧
      next = { state with
        lastMapReportMs := call.now
        publications := ⟨call.now, position, report, ⟨mqttBuildMapTopic build, payload⟩, call.answer.isNone⟩ ::
          state.publications }) ∨
    (next = state ∧ ¬ (Elapsed build.intervalMs call.now (reportTimes state.publications) ∧
      ∃ position report payload, CanReport build call position report payload)) := by
  unfold mqttPerhapsReportToMap at done
  split_ifs at done with offline early
  · cases done
    right
    refine ⟨rfl, ?_⟩
    intro both
    obtain ⟨-, position, report, payload, online, -⟩ := both
    rw [offline] at online
    cases online
  · cases done
    exact Or.inr ⟨rfl, fun both => (kept.due_iff call.now).mpr both.1 early⟩
  · have due := (kept.due_iff call.now).mp early
    have connected : call.connected = true := by
      cases online : call.connected with
      | false => exact absurd online offline
      | true => rfl
    cases given : call.position with
    | none =>
      rw [given] at done
      cases done
      right
      refine ⟨rfl, ?_⟩
      intro both
      obtain ⟨-, position, report, payload, -, present, -⟩ := both
      rw [given] at present
      cases present
    | some position =>
      rw [given] at done
      simp only at done
      split_ifs at done with nowhere
      · cases done
        right
        refine ⟨rfl, ?_⟩
        intro both
        obtain ⟨-, other, report, payload, -, present, located, apart, -⟩ := both
        rw [given] at present
        cases present
        rcases nowhere with lat | long | zero
        · exact located.1 lat
        · exact located.2 long
        · exact apart zero
      · rw [not_or, not_or] at nowhere
        obtain ⟨report, built, same⟩ := Option.map_eq_some_iff.mp done
        cases wrapped : mqttMapEnvelope build call.identity call.now report with
        | none =>
          rw [wrapped] at same
          right
          refine ⟨same.symm, ?_⟩
          intro both
          obtain ⟨-, other, another, payload, -, present, -, -, again, packed⟩ := both
          rw [given] at present
          cases present
          rw [built] at again
          cases again
          rw [wrapped] at packed
          cases packed
        | some payload =>
          rw [wrapped] at same
          left
          exact ⟨position, report, payload, ⟨connected, given, ⟨nowhere.1, nowhere.2.1⟩, nowhere.2.2, built, wrapped⟩,
            due, same.symm⟩

theorem Kept.advance (kept : state.Kept build) {now : Int} (later : state.clock ≤ now) :
    { state with clock := now }.Kept build :=
  { kept with
    times := fun time member => ⟨(kept.times time member).1, Int.le_trans (kept.times time member).2 later⟩
    running := Int.le_trans kept.running later }

theorem Kept.publish (kept : state.Kept build) (publication : MapPublication) (now : publication.time = state.clock)
    (due : Elapsed build.intervalMs state.clock (reportTimes state.publications))
    (shown : publication.report.positionPrecision = mqttMapPositionPrecision build.positionPrecision ∧
      (publication.position.latitudeI ≠ none ∧ publication.position.longitudeI ≠ none) ∧
      publication.report.Shows publication.position) :
    { state with
      lastMapReportMs := state.clock
      publications := publication :: state.publications }.Kept build := by
  have follows : publication.MayFollow build state.publications := by
    rw [MapPublication.MayFollow, now]
    exact due
  have lawful : History.Lawful (MapPublication.MayFollow build) (publication :: state.publications) :=
    ⟨follows, kept.spaced⟩
  by_cases first : state.clock = 0
  · have same : reportTimes (publication :: state.publications) = reportTimes state.publications := by
      rw [reportTimes, List.map_cons, now, first]
      rfl
    have empty : reportTimes state.publications = [] := by
      apply List.eq_nil_iff_forall_not_mem.mpr
      intro time member
      have bounds := kept.times time member
      omega
    refine ⟨?_, ?_, kept.running, lawful, List.forall_mem_cons.mpr ⟨shown, kept.shown⟩⟩
    · rw [same, empty, first]
      exact stamp_never 0
    · rw [same]
      exact kept.times
  · have grown : reportTimes (publication :: state.publications) = state.clock :: reportTimes state.publications := by
      simp only [reportTimes, List.map_cons, now, List.filter_cons, ne_eq, first, not_false_eq_true, decide_true, if_true]
    refine ⟨?_, ?_, kept.running, lawful, List.forall_mem_cons.mpr ⟨shown, kept.shown⟩⟩
    · rw [grown]
      exact stamp_now 0 (fun time member => (kept.times time member).2)
    · rw [grown]
      have running := kept.running
      exact List.forall_mem_cons.mpr ⟨⟨by omega, Int.le_refl _⟩, kept.times⟩

theorem Kept.step (state : MapReporter) (call : MapCall) (next : MapReporter) (kept : state.Kept build) (_ : True)
    (taken : state.step build call = some next) : next.Kept build := by
  unfold MapReporter.step at taken
  split_ifs at taken with early
  have advanced := kept.advance (not_lt.mp early)
  rcases advanced.perhaps taken with ⟨position, report, payload, can, due, same⟩ | ⟨same, -⟩
  · rw [same]
    have shows_ := mqttBuildMapReport_shows can.2.2.1 can.2.2.2.2.1
    exact advanced.publish _ rfl due ⟨shows_.1, can.2.2.1, shows_.2⟩
  · rw [same]
    exact advanced

theorem initial_kept (build : MapBuild) : Kept build {} where
  stamp := stamp_never 0
  times := fun _ none => absurd none List.not_mem_nil
  running := Int.le_refl 0
  spaced := trivial
  shown := fun _ none => absurd none List.not_mem_nil

theorem kept_run {calls : List MapCall} {last : MapReporter}
    (run : Transition.run (step build) {} calls = some last) : last.Kept build :=
  Transition.run_invariant Kept.step (initial_kept build) (Transition.guarded_true _ calls) run

end

end MapReporter

/-! ## A gateway -/

def mapReportFields (report : MapReport) : List Protobuf.Field :=
  optionalField (report.longName.bytes != []) 1 (.bytes report.longName.bytes) ++
  (optionalField (report.shortName.bytes != []) 2 (.bytes report.shortName.bytes) ++
  (optionalField (report.role.toNat != 0) 3 (.varint report.role.toNat) ++
  (optionalField (report.hwModel != 0) 4 (.varint report.hwModel) ++
  (optionalField (report.firmwareVersion.bytes != []) 5 (.bytes report.firmwareVersion.bytes) ++
  (optionalField (report.region.toNat != 0) 6 (.varint report.region.toNat) ++
  (optionalField (report.modemPreset != 0) 7 (.varint report.modemPreset) ++
  (optionalField report.hasDefaultChannel 8 (.varint 1) ++
  (optionalField (report.latitudeI != 0) 9 (.fixed32 report.latitudeI.toUInt32) ++
  (optionalField (report.longitudeI != 0) 10 (.fixed32 report.longitudeI.toUInt32) ++
  (optionalField (report.altitude != 0) 11 (.varint (report.altitude.toInt % 2 ^ 64).toNat) ++
  (optionalField (report.positionPrecision != 0) 12 (.varint report.positionPrecision.toNat) ++
  (optionalField (report.numOnlineLocalNodes != 0) 13 (.varint report.numOnlineLocalNodes.toNat) ++
  optionalField report.hasOptedReportLocation 14 (.varint 1)))))))))))))

def plainMapBuild : MapBuild :=
  { plainMqtt with
    intervalSec := 900
    positionPrecision := 14
    encode := fun report => Protobuf.encodeFields (mapReportFields report)
    envelopes := envelopeCodec []
    intervalSec_range := by decide }

def towerIdentity : MapIdentity :=
  { longName := CString.empty, shortName := CString.empty, role := .client, hwModel := 255
    kernelVersion := ⟨[0x34, 0x2e, 0x33], by decide⟩, frequency := FREQ_EU, hopLimit := 3
    table := gatewayTable, nodeId := 0x11223344 }

def towerCall (now : Int) : MapCall :=
  { now := now, connected := true, identity := towerIdentity, position := some (fillPosition plainGnss towerFix)
    answer := none }

/-! ## Results -/

/-- In every run, no two reports (but for one at time zero, which the stamp cannot tell from none) lie closer than the
interval, and a call publishes one exactly when it can and the interval has passed. -/
theorem map_report_exactly_when_due (build : MapBuild) (calls : List MapCall) {last : MapReporter}
    (run : Transition.run (MapReporter.step build) {} calls = some last) :
    (∀ newer older publication, last.publications = newer ++ publication :: older →
      Elapsed build.intervalMs publication.time (reportTimes older)) ∧
    ∀ call next, last.step build call = some next →
      ((∃ publication, next.publications = publication :: last.publications) ↔
        Elapsed build.intervalMs call.now (reportTimes last.publications) ∧
          ∃ position report payload, MapReporter.CanReport build call position report payload) := by
  have kept := MapReporter.kept_run run
  constructor
  · intro newer older publication listed
    have lawful := kept.spaced
    rw [listed] at lawful
    have follows : publication.MayFollow build older := History.lawful_at lawful
    exact follows
  · intro call next taken
    unfold MapReporter.step at taken
    split_ifs at taken with early
    rcases (kept.advance (not_lt.mp early)).perhaps taken with ⟨position, report, payload, can, due, same⟩ | ⟨same, cannot⟩
    · rw [same]
      exact ⟨fun _ => ⟨due, position, report, payload, can⟩, fun _ => ⟨_, rfl⟩⟩
    · constructor
      · intro published
        obtain ⟨publication, grown⟩ := published
        rw [same] at grown
        exact absurd grown.symm (List.cons_ne_self _ _)
      · intro both
        exact absurd both cannot

theorem map_report_exactly_when_due_tower :
    ∃ last next, Transition.run (MapReporter.step plainMapBuild) {} [towerCall 5000, towerCall 6000] = some last ∧
      last.step plainMapBuild (towerCall 905000) = some next ∧
      ((∃ publication, next.publications = publication :: last.publications) ↔
        Elapsed plainMapBuild.intervalMs 905000 (reportTimes last.publications) ∧
          ∃ position report payload, MapReporter.CanReport plainMapBuild (towerCall 905000) position report payload) :=
  ⟨_, _, rfl, rfl, (map_report_exactly_when_due plainMapBuild [towerCall 5000, towerCall 6000] rfl).2 (towerCall 905000) _
    rfl⟩

/-- What a run publishes tells the map no more of latitude and longitude than the cell they lie in: the centre of the
cell, which is at most half a cell away, and the same for all positions in the cell. The altitude is not hidden. -/
theorem map_reports_hide_position (build : MapBuild) (calls : List MapCall) {last : MapReporter}
    (run : Transition.run (MapReporter.step build) {} calls = some last) :
    ∃ size : Int, (2 ^ 17 ≤ size ∧ size ≤ 2 ^ 20) ∧
      (∀ publication ∈ last.publications, size = cellSize publication.report.positionPrecision ∧
        publication.report.altitude = publication.position.altitude.getD 0 ∧
        ∀ latitude longitude, publication.position.latitudeI = some latitude →
          publication.position.longitudeI = some longitude →
          (publication.report.latitudeI.toInt = Grid.centre size latitude.toInt ∧
            publication.report.longitudeI.toInt = Grid.centre size longitude.toInt) ∧
          (latitude.toInt - size / 2 ≤ publication.report.latitudeI.toInt ∧
            publication.report.latitudeI.toInt ≤ latitude.toInt + size / 2) ∧
          (longitude.toInt - size / 2 ≤ publication.report.longitudeI.toInt ∧
            publication.report.longitudeI.toInt ≤ longitude.toInt + size / 2)) ∧
      ∀ one ∈ last.publications, ∀ other ∈ last.publications, ∀ lat lat' long long',
        one.position.latitudeI = some lat → other.position.latitudeI = some lat' →
        one.position.longitudeI = some long → other.position.longitudeI = some long' →
        (one.report.latitudeI = other.report.latitudeI ∧ one.report.longitudeI = other.report.longitudeI ↔
          Grid.cell size lat.toInt = Grid.cell size lat'.toInt ∧
          Grid.cell size long.toInt = Grid.cell size long'.toInt) := by
  have kept := MapReporter.kept_run run
  have range := mqttMapPositionPrecision_range build.positionPrecision
  have large : 2 ^ 17 ≤ cellSize (mqttMapPositionPrecision build.positionPrecision) :=
    pow_le_pow_right₀ (by decide) (by omega)
  have positive : 0 < cellSize (mqttMapPositionPrecision build.positionPrecision) := by omega
  have even : cellSize (mqttMapPositionPrecision build.positionPrecision) % 2 = 0 := by
    apply Int.emod_eq_zero_of_dvd
    exact dvd_pow_self 2 (by omega)
  refine ⟨cellSize (mqttMapPositionPrecision build.positionPrecision), ⟨large, ?_⟩, ?_, ?_⟩
  · exact pow_le_pow_right₀ (by decide) (by omega)
  · intro publication member
    obtain ⟨precision, -, shown⟩ := kept.shown publication member
    refine ⟨by rw [precision], shown.altitude, ?_⟩
    intro latitude longitude lat long
    rw [shown.latitude latitude lat, shown.longitude longitude long, precision]
    exact ⟨⟨rfl, rfl⟩, Grid.centre_near positive even latitude.toInt, Grid.centre_near positive even longitude.toInt⟩
  · intro one first other second lat lat' long long' latOne latOther longOne longOther
    obtain ⟨precision, -, shown⟩ := kept.shown one first
    obtain ⟨precision', -, shown'⟩ := kept.shown other second
    rw [← Int32.toInt_inj, ← Int32.toInt_inj, shown.latitude lat latOne, shown'.latitude lat' latOther,
      shown.longitude long longOne, shown'.longitude long' longOther, precision, precision',
      Grid.centre_eq_iff positive, Grid.centre_eq_iff positive]

theorem map_reports_hide_position_tower :
    ∃ last size, Transition.run (MapReporter.step plainMapBuild) {} [towerCall 5000, towerCall 905000] = some last ∧
      last.publications.length = 2 ∧
      ∀ publication ∈ last.publications, size = cellSize publication.report.positionPrecision ∧
        publication.report.altitude = publication.position.altitude.getD 0 ∧
        ∀ latitude longitude, publication.position.latitudeI = some latitude →
          publication.position.longitudeI = some longitude →
          (publication.report.latitudeI.toInt = Grid.centre size latitude.toInt ∧
            publication.report.longitudeI.toInt = Grid.centre size longitude.toInt) ∧
          (latitude.toInt - size / 2 ≤ publication.report.latitudeI.toInt ∧
            publication.report.latitudeI.toInt ≤ latitude.toInt + size / 2) ∧
          (longitude.toInt - size / 2 ≤ publication.report.longitudeI.toInt ∧
            publication.report.longitudeI.toInt ≤ longitude.toInt + size / 2) := by
  obtain ⟨size, -, near, -⟩ := map_reports_hide_position plainMapBuild [towerCall 5000, towerCall 905000] rfl
  exact ⟨_, size, rfl, rfl, near⟩

end Meshtastic
