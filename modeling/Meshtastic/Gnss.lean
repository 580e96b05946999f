import Meshtastic.DataCodec
import Meshtastic.Lib.History
import Meshtastic.Lib.Run
import Meshtastic.Lib.Spacing
import Meshtastic.ModuleHandlers

/-! Positions that a node sends on its own (`meshtastic_gnss.c`). A fix starts a send when the last one that was
sent and the last one that was tried lie far enough back; the send is made on a work queue while fixes come in and
others ask for positions. -/

namespace Meshtastic
open Bytes Spacing

/-! ## Positions -/

inductive GnssFixStatus where
  | noFix
  | gnssFix
  | dgnssFix
  | estimatedFix
  deriving DecidableEq

structure GnssData where
  latitude : Int64
  longitude : Int64
  bearing : UInt32
  speed : UInt32
  altitude : Int32
  satellitesCnt : UInt16
  hdop : UInt32
  geoidSeparation : Int32
  fixStatus : GnssFixStatus
  fixQuality : UInt32
  deriving DecidableEq

/-- `meshtastic_Position`. The two sources say that position and altitude are the device's own. -/
structure GnssPosition where
  latitudeI : Option Int32 := none
  longitudeI : Option Int32 := none
  altitude : Option Int32 := none
  locationInternal : Bool := false
  altitudeInternal : Bool := false
  hdop : UInt32 := 0
  fixQuality : UInt32 := 0
  fixType : UInt32 := 0
  satsInView : UInt32 := 0
  nextUpdate : UInt32 := 0
  precisionBits : UInt32 := 0
  groundSpeed : Option UInt32 := none
  groundTrack : Option UInt32 := none
  altitudeGeoidalSeparation : Option Int32 := none
  seqNumber : UInt32 := 0
  deriving DecidableEq

structure GnssBuild where
  sendIntervalSec : Nat
  retryIntervalSec : Nat
  sendIntervalSec_range : 5 ≤ sendIntervalSec ∧ sendIntervalSec ≤ 86400
  retryIntervalSec_range : 5 ≤ retryIntervalSec ∧ retryIntervalSec ≤ 3600

namespace GnssBuild

def sendIntervalMs (build : GnssBuild) : Int := build.sendIntervalSec * MSEC_PER_SEC
def retryIntervalMs (build : GnssBuild) : Int := build.retryIntervalSec * MSEC_PER_SEC

end GnssBuild

def mdegToCentideg (bearingMdeg : UInt32) : UInt32 := bearingMdeg / 10
def hdopToCentidop (hdopMilli : UInt32) : UInt32 := hdopMilli / 10

def fillPosition (build : GnssBuild) (data : GnssData) : GnssPosition :=
  { latitudeI := some (data.latitude / 100).toInt32
    longitudeI := some (data.longitude / 100).toInt32
    altitude := some (data.altitude / 1000)
    locationInternal := true
    altitudeInternal := true
    hdop := hdopToCentidop data.hdop
    fixQuality := data.fixQuality
    fixType := match data.fixStatus with
      | .dgnssFix => 3
      | .noFix => 0
      | _ => 2
    satsInView := data.satellitesCnt.toUInt32
    nextUpdate := UInt32.ofNat build.sendIntervalSec
    precisionBits := 32
    groundSpeed := if data.speed ≠ 0 then some (data.speed / 1000) else none
    groundTrack := if data.bearing ≠ 0 then some (mdegToCentideg data.bearing) else none
    altitudeGeoidalSeparation :=
      if data.geoidSeparation ≠ 0 then some (data.geoidSeparation / 1000) else none }

/-! ## The module -/

inductive SendWork where
  | idle
  | queued
  /-- in `meshtastic_send_packet` -/
  | sending (packet : Packet)
  /-- the handler has only to return -/
  | returning
  deriving DecidableEq

inductive GnssEvent where
  | fix (data : GnssData)
  | attempt (now : Int)
  | sent (now : Int)
  /-- a position of this fix gets this sequence number -/
  | numbered (seq : UInt32) (data : GnssData)
  deriving DecidableEq

/-- `gnss_state`; `data` is there once `has_fix` is set. The clock and the log, newest event first, are not in the
code. -/
structure GnssState where
  data : Option GnssData
  seq : UInt32
  lastSentMs : Int
  lastAttemptMs : Int
  work : SendWork
  clock : Int
  log : List GnssEvent

inductive GnssMove where
  /-- `gnss_data_cb` -/
  | fix (data : GnssData) (now : Int)
  /-- `position_work_handler`, up to the call of `meshtastic_send_packet` -/
  | handle
  /-- the rest of it, given what the call returned -/
  | answer (ret : Option Errno) (now : Int)
  /-- the work queue finds the handler returned -/
  | leave
  /-- `position_build_packet` for a reply or for the application -/
  | build

namespace GnssState

section
variable (build : GnssBuild)

/-- `meshtastic_gnss_get_last_position`; `none` is -ENODATA. The position of a reader has no number. -/
def gnssGetLastPosition (state : GnssState) : Option GnssPosition := state.data.map (fillPosition build)

/-- `position_build_packet` while it holds the lock, and the position it makes. -/
def takePosition (state : GnssState) : Option (GnssPosition × GnssState) :=
  state.data.map fun data =>
    ({ fillPosition build data with seqNumber := state.seq + 1 },
      { state with seq := state.seq + 1, log := .numbered (state.seq + 1) data :: state.log })

def perhapsAutoSend (state : GnssState) (now : Int) : GnssState :=
  if now - state.lastSentMs < build.sendIntervalMs ∨ now - state.lastAttemptMs < build.retryIntervalMs ∨
      state.work ≠ .idle then state
  else { state with lastAttemptMs := now, work := .queued, log := .attempt now :: state.log }

/-- `gnss_data_cb` on data of the device. -/
def gnssDataCb (state : GnssState) (data : GnssData) (now : Int) : GnssState :=
  if data.fixStatus = .noFix then state
  else { state with data := some data, log := .fix data :: state.log }.perhapsAutoSend build now

/-- `position_work_handler` up to its call, given nanopb's serialisation of a position. -/
def positionWorkHandler (encode : GnssPosition → Octets) (state : GnssState) : GnssState :=
  match state.takePosition build with
  | none => { state with work := .returning }
  | some (position, state) =>
    match positionBuildPacket NODE_BROADCAST false 0 0 (some (encode position)) with
    | some (.ok packet) => { state with work := .sending packet.packet }
    | _ => { state with work := .returning }

def step (encode : GnssPosition → Octets) (state : GnssState) : GnssMove → Option GnssState
  | .fix data now => if now < state.clock then none else some ({ state with clock := now }.gnssDataCb build data now)
  | .handle => if state.work = .queued then some (state.positionWorkHandler build encode) else none
  | .answer ret now =>
    match state.work with
    | .sending _ =>
      if now < state.clock then none
      else
        match ret with
        | some _ => some { state with work := .returning, clock := now }
        | none =>
          some { state with work := .returning, clock := now, lastSentMs := now, log := .sent now :: state.log }
    | _ => none
  | .leave => if state.work = .returning then some { state with work := .idle } else none
  | .build => (state.takePosition build).map Prod.snd

/-- `meshtastic_gnss_init`. -/
def initial : GnssState :=
  { data := none, seq := 0, lastSentMs := -build.sendIntervalMs, lastAttemptMs := -build.retryIntervalMs
    work := .idle, clock := 0, log := [] }

end

end GnssState

/-! ## The log -/

namespace GnssEvent

def attemptTime : GnssEvent → Option Int
  | attempt now => some now
  | _ => none

def sentTime : GnssEvent → Option Int
  | sent now => some now
  | _ => none

def fixData : GnssEvent → Option GnssData
  | fix data => some data
  | _ => none

def number : GnssEvent → Option UInt32
  | numbered seq _ => some seq
  | _ => none

/-- When an attempt, and which number and fix, may follow what happened before. -/
def May (build : GnssBuild) : GnssEvent → List GnssEvent → Prop
  | attempt now, older => Elapsed build.retryIntervalMs now (older.filterMap attemptTime) ∧
      Elapsed build.sendIntervalMs now (older.filterMap sentTime)
  | numbered seq data, older => older.findSome? fixData = some data ∧
      seq = UInt32.ofNat ((older.filterMap number).length + 1)
  | fix _, _ => True
  | sent _, _ => True

end GnssEvent

namespace GnssState
open GnssEvent

/-- The packet broadcasts a position that the log numbers. -/
def Announces (build : GnssBuild) (encode : GnssPosition → Octets) (log : List GnssEvent) (packet : Packet) : Prop :=
  ∃ seq data, .numbered seq data ∈ log ∧
    packet = modulePacket PORT_POSITION NODE_BROADCAST false 0 0
      (encode { fillPosition build data with seqNumber := seq })

/-- The stamps, the fix, the sequence number and the packet are what the log says, and every event was allowed. -/
structure Kept (build : GnssBuild) (encode : GnssPosition → Octets) (state : GnssState) : Prop where
  attempts : Stamp (-build.retryIntervalMs) state.lastAttemptMs (state.log.filterMap attemptTime)
  sents : Stamp (-build.sendIntervalMs) state.lastSentMs (state.log.filterMap sentTime)
  attemptsPast : ∀ time ∈ state.log.filterMap attemptTime, time ≤ state.clock
  sentsPast : ∀ time ∈ state.log.filterMap sentTime, time ≤ state.clock
  running : 0 ≤ state.clock
  data : state.data = state.log.findSome? fixData
  seq : state.seq = UInt32.ofNat (state.log.filterMap number).length
  lawful : History.Lawful (May build) state.log
  sends : ∀ packet, state.work = .sending packet → Announces build encode state.log packet

/-- Enough time has passed since every send that was tried and every one that was made, and none is on its way. -/
def Due (build : GnssBuild) (state : GnssState) (now : Int) : Prop :=
  state.work = .idle ∧ Elapsed build.retryIntervalMs now (state.log.filterMap attemptTime) ∧
    Elapsed build.sendIntervalMs now (state.log.filterMap sentTime)

section
variable {build : GnssBuild} {encode : GnssPosition → Octets} {state next : GnssState} {now : Int}

theorem Announces.later {log : List GnssEvent} {packet : Packet} (announces : Announces build encode log packet)
    (event : GnssEvent) : Announces build encode (event :: log) packet := by
  obtain ⟨seq, data, member, same⟩ := announces
  exact ⟨seq, data, List.mem_cons_of_mem event member, same⟩

theorem initial_kept (build : GnssBuild) (encode : GnssPosition → Octets) : (initial build).Kept build encode where
  attempts := stamp_never _
  sents := stamp_never _
  attemptsPast := fun _ none => absurd none List.not_mem_nil
  sentsPast := fun _ none => absurd none List.not_mem_nil
  running := Int.le_refl 0
  data := rfl
  seq := rfl
  lawful := trivial
  sends := fun _ sending => nomatch sending

theorem Kept.advance (kept : state.Kept build encode) (later : state.clock ≤ now) :
    { state with clock := now }.Kept build encode :=
  { kept with
    attemptsPast := fun time member => Int.le_trans (kept.attemptsPast time member) later
    sentsPast := fun time member => Int.le_trans (kept.sentsPast time member) later
    running := Int.le_trans kept.running later }

theorem Kept.due_iff (kept : state.Kept build encode) (later : state.clock ≤ now) :
    ¬ (now - state.lastSentMs < build.sendIntervalMs ∨ now - state.lastAttemptMs < build.retryIntervalMs ∨
      state.work ≠ .idle) ↔ state.Due build now := by
  have running := kept.running
  have sent : build.sendIntervalMs ≤ now - state.lastSentMs ↔
      Elapsed build.sendIntervalMs now (state.log.filterMap sentTime) := kept.sents.elapsed_iff (by omega)
  have attempted : build.retryIntervalMs ≤ now - state.lastAttemptMs ↔
      Elapsed build.retryIntervalMs now (state.log.filterMap attemptTime) := kept.attempts.elapsed_iff (by omega)
  rw [not_or, not_or, not_lt, not_lt, not_not, sent, attempted]
  constructor
  · intro open_
    exact ⟨open_.2.2, open_.2.1, open_.1⟩
  · intro due
    exact ⟨due.2.2, due.2.1, due.1⟩

theorem Kept.perhapsAutoSend (kept : state.Kept build encode) :
    (state.perhapsAutoSend build state.clock).Kept build encode := by
  unfold GnssState.perhapsAutoSend
  split_ifs with wait
  · exact kept
  · have due := (kept.due_iff (Int.le_refl state.clock)).mp wait
    exact { kept with
      attempts := stamp_now _ kept.attemptsPast
      attemptsPast := List.forall_mem_cons.mpr ⟨Int.le_refl state.clock, kept.attemptsPast⟩
      lawful := ⟨due.2, kept.lawful⟩
      sends := fun _ sending => nomatch sending }

theorem Kept.heard (kept : state.Kept build encode) (data : GnssData) :
    { state with data := some data, log := .fix data :: state.log }.Kept build encode :=
  { kept with
    data := rfl
    lawful := ⟨trivial, kept.lawful⟩
    sends := fun packet sending => (kept.sends packet sending).later _ }

theorem Kept.takePosition (kept : state.Kept build encode) {position : GnssPosition}
    (taken : state.takePosition build = some (position, next)) :
    next.Kept build encode ∧ ∃ seq data, position = { fillPosition build data with seqNumber := seq } ∧
      .numbered seq data ∈ next.log := by
  obtain ⟨data, present, same⟩ := Option.map_eq_some_iff.mp taken
  cases same
  have newest := kept.data.symm.trans present
  have follows : state.seq + 1 = UInt32.ofNat ((state.log.filterMap number).length + 1) := by
    rw [kept.seq, UInt32.ofNat_add]
    rfl
  constructor
  · exact { kept with
      seq := follows
      lawful := ⟨⟨newest, follows⟩, kept.lawful⟩
      sends := fun packet sending => (kept.sends packet sending).later _ }
  · exact ⟨state.seq + 1, data, rfl, List.mem_cons_self⟩

theorem Kept.working (kept : state.Kept build encode) {work : SendWork}
    (sends : ∀ packet, work = .sending packet → Announces build encode state.log packet) :
    { state with work := work }.Kept build encode :=
  { kept with sends := sends }

theorem positionBuildPacket_ok {dest : UInt32} {wantResponse : Bool} {channel : UInt8} {responseToId : UInt32}
    {message : Octets} {packet : ModulePacket}
    (built : positionBuildPacket dest wantResponse channel responseToId (some message) = some (.ok packet)) :
    packet.packet = modulePacket PORT_POSITION dest wantResponse channel responseToId message := by
  simp only [positionBuildPacket, encodePayload, Option.map_some, Option.some.injEq] at built
  split_ifs at built
  · cases built
  · cases built
    rfl

theorem Kept.positionWorkHandler (kept : state.Kept build encode) :
    (state.positionWorkHandler build encode).Kept build encode := by
  unfold GnssState.positionWorkHandler
  cases given : state.takePosition build with
  | none => exact kept.working (fun _ sending => nomatch sending)
  | some taking =>
    obtain ⟨position, numbered⟩ := taking
    obtain ⟨after, seq, data, made, member⟩ := kept.takePosition given
    simp only
    split
    · rename_i packet built
      apply after.working
      intro sent sending
      cases sending
      exact ⟨seq, data, member, by rw [positionBuildPacket_ok built, made]⟩
    · exact after.working (fun _ sending => nomatch sending)

theorem Kept.step (state : GnssState) (move : GnssMove) (next : GnssState) (kept : state.Kept build encode) (_ : True)
    (taken : state.step build encode move = some next) : next.Kept build encode := by
  cases move with
  | fix data now =>
    simp only [GnssState.step, gnssDataCb] at taken
    split_ifs at taken with early noFix
    · cases taken
      exact kept.advance (not_lt.mp early)
    · cases taken
      exact ((kept.advance (not_lt.mp early)).heard data).perhapsAutoSend
  | handle =>
    simp only [GnssState.step] at taken
    split_ifs at taken
    cases taken
    exact kept.positionWorkHandler
  | answer ret now =>
    simp only [GnssState.step] at taken
    split at taken
    · split_ifs at taken with early
      have advanced := kept.advance (not_lt.mp early)
      cases ret with
      | some err =>
        cases taken
        exact advanced.working (fun _ sending => nomatch sending)
      | none =>
        cases taken
        exact { advanced with
          sents := stamp_now _ advanced.sentsPast
          sentsPast := List.forall_mem_cons.mpr ⟨Int.le_refl now, advanced.sentsPast⟩
          lawful := ⟨trivial, advanced.lawful⟩
          sends := fun _ sending => nomatch sending }
    · cases taken
  | leave =>
    simp only [GnssState.step] at taken
    split_ifs at taken
    cases taken
    exact kept.working (fun _ sending => nomatch sending)
  | build =>
    obtain ⟨taking, given, same⟩ := Option.map_eq_some_iff.mp taken
    cases same
    exact (kept.takePosition given).1

theorem kept_run {moves : List GnssMove} {last : GnssState}
    (run : Transition.run (step build encode) (initial build) moves = some last) : last.Kept build encode :=
  Transition.run_invariant Kept.step (initial_kept build encode) (Transition.guarded_true _ moves) run

theorem Kept.number_at (kept : state.Kept build encode) {newer older : List GnssEvent} {seq : UInt32} {data : GnssData}
    (logged : state.log = newer ++ .numbered seq data :: older) :
    older.findSome? fixData = some data ∧ seq = UInt32.ofNat ((older.filterMap number).length + 1) := by
  have lawful := kept.lawful
  rw [logged] at lawful
  exact History.lawful_at lawful

end

end GnssState

open GnssEvent

/-! ## A device -/

def positionFields (position : GnssPosition) : List Protobuf.Field :=
  (position.latitudeI.toList.map fun value => ⟨1, .fixed32 value.toUInt32⟩) ++
  ((position.longitudeI.toList.map fun value => ⟨2, .fixed32 value.toUInt32⟩) ++
  ((position.altitude.toList.map fun value => ⟨3, .varint (value.toInt % 2 ^ 64).toNat⟩) ++
  (optionalField position.locationInternal 5 (.varint 2) ++
  (optionalField position.altitudeInternal 6 (.varint 2) ++
  ((position.altitudeGeoidalSeparation.toList.map fun value =>
    ⟨10, .varint (if value < 0 then (-2 * value.toInt - 1).toNat else (2 * value.toInt).toNat)⟩) ++
  (optionalField (position.hdop != 0) 12 (.varint position.hdop.toNat) ++
  ((position.groundSpeed.toList.map fun value => ⟨15, .varint value.toNat⟩) ++
  ((position.groundTrack.toList.map fun value => ⟨16, .varint value.toNat⟩) ++
  (optionalField (position.fixQuality != 0) 17 (.varint position.fixQuality.toNat) ++
  (optionalField (position.fixType != 0) 18 (.varint position.fixType.toNat) ++
  (optionalField (position.satsInView != 0) 19 (.varint position.satsInView.toNat) ++
  (optionalField (position.nextUpdate != 0) 21 (.varint position.nextUpdate.toNat) ++
  (optionalField (position.seqNumber != 0) 22 (.varint position.seqNumber.toNat) ++
  optionalField (position.precisionBits != 0) 23 (.varint position.precisionBits.toNat))))))))))))))

def positionOctets (position : GnssPosition) : Octets := Protobuf.encodeFields (positionFields position)

def plainGnss : GnssBuild := ⟨300, 60, by decide, by decide⟩

def towerFix : GnssData :=
  { latitude := 48858370000, longitude := 2294481000, bearing := 0, speed := 0, altitude := 330000
    satellitesCnt := 9, hdop := 900, geoidSeparation := 47000, fixStatus := .gnssFix, fixQuality := 1 }

def towerMoves : List GnssMove :=
  [.fix towerFix 1000, .handle, .answer none 1200, .leave, .fix towerFix 2000, .build]

/-! ## Results -/

/-- In every run, a send is tried no earlier than the retry interval after any that was tried and the send interval
after any that was made, and a fix that comes no earlier than that, while none is on its way, starts one. -/
theorem auto_send_exactly_when_due (build : GnssBuild) (encode : GnssPosition → Octets) (moves : List GnssMove)
    {last : GnssState}
    (run : Transition.run (GnssState.step build encode) (GnssState.initial build) moves = some last) :
    (∀ newer older time, last.log = newer ++ .attempt time :: older →
      Elapsed build.retryIntervalMs time (older.filterMap attemptTime) ∧
      Elapsed build.sendIntervalMs time (older.filterMap sentTime)) ∧
    ∀ data now next, data.fixStatus ≠ .noFix → last.step build encode (.fix data now) = some next →
      (last.Due build now → next.work = .queued ∧ next.log = .attempt now :: .fix data :: last.log) ∧
      (¬ last.Due build now → next.work = last.work ∧ next.log = .fix data :: last.log) := by
  have kept := GnssState.kept_run run
  constructor
  · intro newer older time logged
    have lawful := kept.lawful
    rw [logged] at lawful
    exact History.lawful_at lawful
  · intro data now next heard taken
    simp only [GnssState.step, GnssState.gnssDataCb, if_neg heard] at taken
    split_ifs at taken with early
    cases taken
    have due := kept.due_iff (not_lt.mp early)
    constructor
    · intro ready
      simp only [GnssState.perhapsAutoSend, if_neg (due.mpr ready)]
      exact ⟨trivial, trivial⟩
    · intro wait
      have held := not_not.mp (mt due.mp wait)
      simp only [GnssState.perhapsAutoSend, if_pos held]
      exact ⟨trivial, trivial⟩

theorem auto_send_exactly_when_due_tower :
    ∃ last, Transition.run (GnssState.step plainGnss positionOctets) (GnssState.initial plainGnss) towerMoves = some last ∧
      ∀ next, last.step plainGnss positionOctets (.fix towerFix 301200) = some next →
        next.work = .queued ∧ next.log = .attempt 301200 :: .fix towerFix :: last.log :=
  ⟨_, rfl, fun next taken => ((auto_send_exactly_when_due plainGnss positionOctets towerMoves rfl).2 towerFix 301200 next
    (by decide) taken).1 ⟨rfl, by decide, by decide⟩⟩

/-- Every position that `position_build_packet` makes is of the newest fix and has the next sequence number. Fewer than
2^32 positions in a row have different ones, and what is broadcast is one of these positions. A reader gets the newest
fix, and takes no number. -/
theorem positions_numbered_in_order (build : GnssBuild) (encode : GnssPosition → Octets) (moves : List GnssMove)
    {last : GnssState}
    (run : Transition.run (GnssState.step build encode) (GnssState.initial build) moves = some last) :
    (∀ newer older seq data, last.log = newer ++ .numbered seq data :: older →
      older.findSome? fixData = some data ∧ seq = UInt32.ofNat ((older.filterMap number).length + 1)) ∧
    (∀ newest middle older later earlier new old,
      last.log = newest ++ .numbered later new :: (middle ++ .numbered earlier old :: older) →
      (middle.filterMap number).length + 1 < 2 ^ 32 → later ≠ earlier) ∧
    (∀ packet, last.work = .sending packet → GnssState.Announces build encode last.log packet) ∧
    last.gnssGetLastPosition build = (last.log.findSome? fixData).map (fillPosition build) := by
  have kept := GnssState.kept_run run
  refine ⟨fun newer older seq data logged => kept.number_at logged, ?_, kept.sends, ?_⟩
  swap
  · rw [GnssState.gnssGetLastPosition, kept.data]
  intro newest middle older later earlier new old logged few same
  have second := (kept.number_at logged).2
  have first : earlier = UInt32.ofNat ((older.filterMap number).length + 1) := by
    have inside : last.log = (newest ++ .numbered later new :: middle) ++ .numbered earlier old :: older := by
      rw [logged, List.append_assoc, List.cons_append]
    exact (kept.number_at inside).2
  have count : ((middle ++ GnssEvent.numbered earlier old :: older).filterMap number).length =
      (middle.filterMap number).length + ((older.filterMap number).length + 1) := by
    rw [List.filterMap_append, List.length_append]
    rfl
  rw [first, second, count] at same
  have residues := congrArg UInt32.toNat same
  simp only [UInt32.toNat_ofNat'] at residues
  omega

theorem positions_numbered_in_order_tower :
    ∃ last, Transition.run (GnssState.step plainGnss positionOctets) (GnssState.initial plainGnss) towerMoves = some last ∧
      ∀ newer older seq data, last.log = newer ++ .numbered seq data :: older →
        older.findSome? fixData = some data ∧ seq = UInt32.ofNat ((older.filterMap number).length + 1) :=
  ⟨_, rfl, (positions_numbered_in_order plainGnss positionOctets towerMoves rfl).1⟩

end Meshtastic
