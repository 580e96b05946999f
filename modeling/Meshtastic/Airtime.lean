import Mathlib.Data.UInt
import Meshtastic.Lib.Window

/-! Airtime accounting: two rings that a timer turns once a second, one with what was on the channel in the
last minute and one with what was sent in the last hour. -/

namespace Meshtastic

abbrev CHANNEL_UTILIZATION_PERIODS : Nat := 6
abbrev MINUTES_IN_HOUR : Nat := 60

inductive AirtimeType where
  | tx
  | rx
  | rxAll
  | other (value : UInt32)
  deriving DecidableEq

/-- The atomics are words of 32 bits, which is how much of them is read. -/
structure AirtimeState where
  channelUtilization : Fin CHANNEL_UTILIZATION_PERIODS → UInt32 := fun _ => 0
  utilizationTx : Fin MINUTES_IN_HOUR → UInt32 := fun _ => 0
  secSinceBoot : UInt32 := 0
  lastUtilPeriod : Fin CHANNEL_UTILIZATION_PERIODS := 0
  lastUtilPeriodTx : Fin MINUTES_IN_HOUR := 0
  firstTick : Bool := false

def airtimeInit : AirtimeState := { firstTick := true }

namespace AirtimeState
variable (state : AirtimeState)

-- `Fin.ofNat` takes the remainder
def periodUtilMinute : Fin CHANNEL_UTILIZATION_PERIODS :=
  Fin.ofNat CHANNEL_UTILIZATION_PERIODS (state.secSinceBoot / 10).toNat

def periodUtilHour : Fin MINUTES_IN_HOUR := Fin.ofNat MINUTES_IN_HOUR (state.secSinceBoot / 60).toNat

def channelUtilAdd (ms : UInt32) : AirtimeState :=
  let idx := state.periodUtilMinute
  { state with channelUtilization := Function.update state.channelUtilization idx (state.channelUtilization idx + ms) }

def airtimeLog (type : AirtimeType) (ms : UInt32) : AirtimeState :=
  match type with
  | .tx =>
    let idx := state.periodUtilHour
    let state := { state with utilizationTx := Function.update state.utilizationTx idx (state.utilizationTx idx + ms) }
    state.channelUtilAdd ms
  | .rx => state.channelUtilAdd ms
  | .rxAll => state.channelUtilAdd ms
  | .other _ => state

def channelUtilSum : UInt32 :=
  (List.finRange CHANNEL_UTILIZATION_PERIODS).foldl (fun sum i => sum + state.channelUtilization i) 0

def txUtilSum : UInt32 := (List.finRange MINUTES_IN_HOUR).foldl (fun sum i => sum + state.utilizationTx i) 0

/-- A ten-second period that is not the last one seen begins with an empty slot. -/
def enterUtilPeriod (utilPeriod : Fin CHANNEL_UTILIZATION_PERIODS) : AirtimeState :=
  if state.lastUtilPeriod ≠ utilPeriod then
    { state with
      lastUtilPeriod := utilPeriod
      channelUtilization := Function.update state.channelUtilization utilPeriod 0 }
  else state

def enterUtilPeriodTx (utilPeriodTx : Fin MINUTES_IN_HOUR) : AirtimeState :=
  if state.lastUtilPeriodTx ≠ utilPeriodTx then
    { state with
      lastUtilPeriodTx := utilPeriodTx
      utilizationTx := Function.update state.utilizationTx utilPeriodTx 0 }
  else state

def airtimeTick : AirtimeState :=
  let state := { state with secSinceBoot := state.secSinceBoot + 1 }
  let utilPeriod := state.periodUtilMinute
  let utilPeriodTx := state.periodUtilHour
  if state.firstTick then
    { state with firstTick := false, lastUtilPeriod := utilPeriod, lastUtilPeriodTx := utilPeriodTx }
  else (state.enterUtilPeriod utilPeriod).enterUtilPeriodTx utilPeriodTx

/-! ## What a tick does -/

theorem enterUtilPeriod_eq (utilPeriod : Fin CHANNEL_UTILIZATION_PERIODS) :
    state.enterUtilPeriod utilPeriod =
      { state with
        lastUtilPeriod := utilPeriod
        channelUtilization :=
          if state.lastUtilPeriod = utilPeriod then state.channelUtilization
          else Function.update state.channelUtilization utilPeriod 0 } := by
  unfold enterUtilPeriod
  by_cases same : state.lastUtilPeriod = utilPeriod
  · rw [if_neg (not_not.mpr same), if_pos same, ← same]
  · rw [if_pos same, if_neg same]

theorem enterUtilPeriodTx_eq (utilPeriodTx : Fin MINUTES_IN_HOUR) :
    state.enterUtilPeriodTx utilPeriodTx =
      { state with
        lastUtilPeriodTx := utilPeriodTx
        utilizationTx :=
          if state.lastUtilPeriodTx = utilPeriodTx then state.utilizationTx
          else Function.update state.utilizationTx utilPeriodTx 0 } := by
  unfold enterUtilPeriodTx
  by_cases same : state.lastUtilPeriodTx = utilPeriodTx
  · rw [if_neg (not_not.mpr same), if_pos same, ← same]
  · rw [if_pos same, if_neg same]

theorem periodUtilMinute_slot : state.periodUtilMinute = Window.slot (state.secSinceBoot.toNat / 10) := by
  unfold periodUtilMinute Window.slot
  rw [UInt32.toNat_div]
  rfl

theorem periodUtilHour_slot : state.periodUtilHour = Window.slot (state.secSinceBoot.toNat / 60) := by
  unfold periodUtilHour Window.slot
  rw [UInt32.toNat_div]
  rfl

theorem airtimeTick_eq {minute : Fin CHANNEL_UTILIZATION_PERIODS} {hour : Fin MINUTES_IN_HOUR}
    (inMinute : Window.slot ((state.secSinceBoot + 1).toNat / 10) = minute)
    (inHour : Window.slot ((state.secSinceBoot + 1).toNat / 60) = hour) :
    state.airtimeTick =
      { channelUtilization :=
          if state.firstTick = true ∨ state.lastUtilPeriod = minute then state.channelUtilization
          else Function.update state.channelUtilization minute 0
        utilizationTx :=
          if state.firstTick = true ∨ state.lastUtilPeriodTx = hour then state.utilizationTx
          else Function.update state.utilizationTx hour 0
        secSinceBoot := state.secSinceBoot + 1
        lastUtilPeriod := minute
        lastUtilPeriodTx := hour
        firstTick := false } := by
  unfold airtimeTick
  simp only [periodUtilMinute_slot, periodUtilHour_slot, inMinute, inHour]
  cases first : state.firstTick with
  | true => simp only [true_or, if_true]
  | false =>
    simp only [Bool.false_eq_true, if_false, false_or]
    rw [enterUtilPeriod_eq, enterUtilPeriodTx_eq]

end AirtimeState

/-! ## Calls and ticks -/

inductive AirtimeEvent where
  | log (type : AirtimeType) (ms : UInt32)
  | tick
  deriving DecidableEq

def AirtimeState.airtimeStep (state : AirtimeState) : AirtimeEvent → AirtimeState
  | .log type ms => state.airtimeLog type ms
  | .tick => state.airtimeTick

def airtimeAfter (events : List AirtimeEvent) : AirtimeState := events.foldl AirtimeState.airtimeStep airtimeInit

structure AirtimeCall where
  second : Nat
  type : AirtimeType
  ms : UInt32

def airtimeSeconds (events : List AirtimeEvent) : Nat := events.count .tick

@[simp] theorem airtimeSeconds_log (type : AirtimeType) (ms : UInt32) (rest : List AirtimeEvent) :
    airtimeSeconds (.log type ms :: rest) = airtimeSeconds rest := by
  unfold airtimeSeconds
  exact List.count_cons_of_ne (by nofun)

@[simp] theorem airtimeSeconds_tick (rest : List AirtimeEvent) :
    airtimeSeconds (.tick :: rest) = airtimeSeconds rest + 1 := List.count_cons_self

def airtimeCalls (second : Nat) : List AirtimeEvent → List AirtimeCall
  | [] => []
  | .log type ms :: rest => ⟨second, type, ms⟩ :: airtimeCalls second rest
  | .tick :: rest => airtimeCalls (second + 1) rest

def AirtimeType.onChannel : AirtimeType → Bool
  | .tx | .rx | .rxAll => true
  | .other _ => false

def AirtimeType.sends : AirtimeType → Bool
  | .tx => true
  | _ => false

/-- The milliseconds of the calls of some types in the current period of so many seconds and those right
before it, as many periods as are given in all. -/
def loggedMs (types : AirtimeType → Bool) (seconds periods now : Nat) (calls : List AirtimeCall) : Nat :=
  ((calls.filter fun call => types call.type ∧ Window.Recent periods (now / seconds) (call.second / seconds)).map
    fun call => call.ms.toNat).sum

/-! ## The rings as windows -/

def airtimeEntries (types : AirtimeType → Bool) (seconds : Nat) (calls : List AirtimeCall) : List (Nat × UInt32) :=
  (calls.filter fun call => types call.type).map fun call => (call.second / seconds, call.ms)

theorem airtimeEntries_append (types : AirtimeType → Bool) (seconds : Nat) (calls later : List AirtimeCall) :
    airtimeEntries types seconds (calls ++ later) =
      airtimeEntries types seconds calls ++ airtimeEntries types seconds later := by
  unfold airtimeEntries
  rw [List.filter_append, List.map_append]

theorem toNat_sum (words : List UInt32) : words.sum.toNat = (words.map UInt32.toNat).sum % 2 ^ 32 := by
  induction words with
  | nil => rfl
  | cons word rest ih =>
    rw [List.sum_cons, List.map_cons, List.sum_cons, UInt32.toNat_add, ih, Nat.add_mod_mod]

theorem toNat_total (types : AirtimeType → Bool) (seconds periods now : Nat) (calls : List AirtimeCall) :
    (Window.total periods (now / seconds) (airtimeEntries types seconds calls)).toNat =
      loggedMs types seconds periods now calls % 2 ^ 32 := by
  have same : calls.filter (fun call => Window.Recent periods (now / seconds) (call.second / seconds) &&
      types call.type) =
      calls.filter fun call => types call.type ∧ Window.Recent periods (now / seconds) (call.second / seconds) := by
    apply List.filter_congr
    intro call _
    rw [Bool.and_comm, Bool.decide_and, Bool.decide_eq_true]
  unfold Window.total airtimeEntries loggedMs
  rw [toNat_sum, List.filter_map, List.map_map, List.map_map, List.filter_filter, ← same]
  rfl

theorem sum_of_loop {size : Nat} (slots : Fin size → UInt32) :
    (List.finRange size).foldl (fun sum i => sum + slots i) 0 = ∑ i, slots i := by
  rw [Fin.sum_univ_def, List.sum_eq_foldl, List.foldl_map]

/-- What holds in some second, after some calls. -/
structure AirtimeState.Tracks (state : AirtimeState) (second : Nat) (calls : List AirtimeCall) : Prop where
  clock : state.secSinceBoot.toNat = second
  channel : Window.Counts (second / 10) state.channelUtilization (airtimeEntries AirtimeType.onChannel 10 calls)
  tx : Window.Counts (second / 60) state.utilizationTx (airtimeEntries AirtimeType.sends 60 calls)
  boot : state.firstTick = true → second = 0
  last : state.firstTick = false →
    state.lastUtilPeriod = Window.slot (second / 10) ∧ state.lastUtilPeriodTx = Window.slot (second / 60)

section
variable {state : AirtimeState} {second : Nat} {calls : List AirtimeCall}

theorem airtimeInit_tracks : airtimeInit.Tracks 0 [] where
  clock := rfl
  channel := Window.counts_nil _
  tx := Window.counts_nil _
  boot := fun _ => rfl
  last := fun running => absurd running (by decide)

theorem AirtimeState.Tracks.minute (tracks : state.Tracks second calls) :
    state.periodUtilMinute = Window.slot (second / 10) := by
  rw [state.periodUtilMinute_slot, tracks.clock]

theorem AirtimeState.Tracks.hour (tracks : state.Tracks second calls) :
    state.periodUtilHour = Window.slot (second / 60) := by
  rw [state.periodUtilHour_slot, tracks.clock]

theorem AirtimeState.Tracks.channelUtilAdd (tracks : state.Tracks second calls) (ms : UInt32) :
    Window.Counts (second / 10) (state.channelUtilAdd ms).channelUtilization
      (airtimeEntries AirtimeType.onChannel 10 calls ++ [(second / 10, ms)]) := by
  unfold AirtimeState.channelUtilAdd
  rw [tracks.minute]
  exact tracks.channel.log (Window.recent_self _) ms

theorem AirtimeState.Tracks.log (tracks : state.Tracks second calls) (type : AirtimeType) (ms : UInt32) :
    (state.airtimeLog type ms).Tracks second (calls ++ [⟨second, type, ms⟩]) := by
  have onChannel := tracks.channelUtilAdd ms
  cases type with
  | tx =>
    refine ⟨tracks.clock, ?_, ?_, tracks.boot, tracks.last⟩
    · rw [airtimeEntries_append]
      exact onChannel
    · rw [airtimeEntries_append]
      unfold AirtimeState.airtimeLog
      rw [tracks.hour]
      exact tracks.tx.log (Window.recent_self _) ms
  | rx | rxAll =>
    refine ⟨tracks.clock, ?_, ?_, tracks.boot, tracks.last⟩
    · rw [airtimeEntries_append]
      exact onChannel
    · rw [airtimeEntries_append]
      exact (List.append_nil _).symm ▸ tracks.tx
  | other value =>
    refine ⟨tracks.clock, ?_, ?_, tracks.boot, tracks.last⟩
    · rw [airtimeEntries_append]
      exact (List.append_nil _).symm ▸ tracks.channel
    · rw [airtimeEntries_append]
      exact (List.append_nil _).symm ▸ tracks.tx

theorem ring_tick {size : Nat} [NeZero size] (wide : 1 < size) {seconds : Nat} (long : 1 < seconds)
    {slots : Fin size → UInt32} {logged : List (Nat × UInt32)}
    (counts : Window.Counts (second / seconds) slots logged) {first : Bool} {last : Fin size}
    (boot : first = true → second = 0) (noted : first = false → last = Window.slot (second / seconds)) :
    Window.Counts ((second + 1) / seconds)
      (if first = true ∨ last = Window.slot ((second + 1) / seconds) then slots
        else Function.update slots (Window.slot ((second + 1) / seconds)) 0) logged := by
  cases first with
  | true =>
    have still : (second + 1) / seconds = second / seconds := by
      rw [boot rfl, Nat.div_eq_of_lt long, Nat.zero_div]
    rw [if_pos (Or.inl rfl), still]
    exact counts
  | false =>
    have near : (second + 1) / seconds = second / seconds ∨ (second + 1) / seconds = second / seconds + 1 := by
      rw [Nat.succ_div]
      split_ifs
      · exact Or.inr rfl
      · exact Or.inl rfl
    have advanced := counts.advance wide near
    simp only [Bool.false_eq_true, false_or, noted rfl]
    exact advanced

theorem AirtimeState.Tracks.tick (tracks : state.Tracks second calls) (early : second + 1 < 2 ^ 32) :
    state.airtimeTick.Tracks (second + 1) calls := by
  have clock : (state.secSinceBoot + 1).toNat = second + 1 := by
    rw [UInt32.toNat_add, tracks.clock]
    exact Nat.mod_eq_of_lt early
  rw [state.airtimeTick_eq (congrArg (fun now => Window.slot (now / 10)) clock)
    (congrArg (fun now => Window.slot (now / 60)) clock)]
  refine ⟨clock, ?_, ?_, nofun, fun _ => ⟨rfl, rfl⟩⟩
  · exact ring_tick (by decide) (by decide) tracks.channel tracks.boot fun running => (tracks.last running).1
  · exact ring_tick (by decide) (by decide) tracks.tx tracks.boot fun running => (tracks.last running).2

theorem AirtimeState.Tracks.run (tracks : state.Tracks second calls) (events : List AirtimeEvent)
    (early : second + airtimeSeconds events < 2 ^ 32) :
    (events.foldl AirtimeState.airtimeStep state).Tracks (second + airtimeSeconds events)
      (calls ++ airtimeCalls second events) := by
  induction events generalizing state second calls with
  | nil =>
    rw [airtimeCalls, List.append_nil]
    exact tracks
  | cons event rest ih =>
    cases event with
    | log type ms =>
      rw [airtimeSeconds_log] at early ⊢
      rw [airtimeCalls, List.append_cons]
      exact ih (tracks.log type ms) early
    | tick =>
      have more : second + airtimeSeconds (.tick :: rest) = second + 1 + airtimeSeconds rest := by
        rw [airtimeSeconds_tick]
        omega
      rw [more] at early ⊢
      exact ih (tracks.tick (by omega)) early

end

/-- Whatever calls and ticks have come, at any time at which the clock has not wrapped: the ring of the channel
has what was logged in the current ten seconds and the five periods before them, and that of sending what was
sent in the current minute and the 59 before it, both modulo `2 ^ 32`. -/
theorem airtime_windows (events : List AirtimeEvent) (early : airtimeSeconds events < 2 ^ 32) :
    let now := airtimeSeconds events
    let calls := airtimeCalls 0 events
    (airtimeAfter events).channelUtilSum.toNat = loggedMs AirtimeType.onChannel 10 6 now calls % 2 ^ 32 ∧
      (airtimeAfter events).txUtilSum.toNat = loggedMs AirtimeType.sends 60 60 now calls % 2 ^ 32 := by
  have zero : 0 + airtimeSeconds events = airtimeSeconds events := Nat.zero_add _
  have tracks := airtimeInit_tracks.run events (by rwa [zero])
  rw [zero, List.nil_append] at tracks
  constructor
  · unfold AirtimeState.channelUtilSum
    rw [← toNat_total, ← tracks.channel.total]
    exact congrArg UInt32.toNat (sum_of_loop _)
  · unfold AirtimeState.txUtilSum
    rw [← toNat_total, ← tracks.tx.total]
    exact congrArg UInt32.toNat (sum_of_loop _)

def sentThenHeard : List AirtimeEvent := .log .tx 100 :: (List.replicate 60 .tick ++ [.log .rx 40])

/-- The first one has left the ring of the channel, where its slot was used again, but not that of sending. -/
theorem airtime_windows_sentThenHeard :
    (airtimeAfter sentThenHeard).channelUtilSum.toNat = 40 ∧ (airtimeAfter sentThenHeard).txUtilSum.toNat = 100 := by
  have windows := airtime_windows sentThenHeard (by decide)
  have channel : loggedMs AirtimeType.onChannel 10 6 (airtimeSeconds sentThenHeard) (airtimeCalls 0 sentThenHeard) =
      40 := by decide
  have tx : loggedMs AirtimeType.sends 60 60 (airtimeSeconds sentThenHeard) (airtimeCalls 0 sentThenHeard) =
      100 := by decide
  exact ⟨windows.1.trans (congrArg (· % 2 ^ 32) channel), windows.2.trans (congrArg (· % 2 ^ 32) tx)⟩

end Meshtastic
