import Meshtastic.Core
import Meshtastic.Lib.Exclusion
import Meshtastic.Lib.Run

/-! The transceiver of `meshtastic_radio.c`. Threads that transmit and the thread that re-arms continuous
reception share the driver under `mt_radio_sem`; received frames pass from the driver's callback to the
processing thread through a queue. -/

namespace Meshtastic
open Bytes

structure RadioBuild where
  txBusyRetries : Nat
  txBusyBackoffMinMs : UInt32
  txBusyBackoffMaxMs : UInt32
  rxQueueDepth : Nat
  txBusyRetries_range : txBusyRetries ≤ 32
  txBusyBackoffMinMs_range : txBusyBackoffMinMs ≤ 60000
  txBusyBackoffMaxMs_range : txBusyBackoffMaxMs ≤ 60000
  rxQueueDepth_range : 2 ≤ rxQueueDepth ∧ rxQueueDepth ≤ 16

/-- The fields of `struct lora_modem_config` that are ever changed. -/
structure ModemConfig where
  frequency : UInt32
  txPower : Int8
  tx : Bool
  listenBeforeTalk : Bool
  deriving DecidableEq

/-! ## The driver -/

/-- The LoRa driver, which the repository calls. `Device` is its state; the hardware's answer to a call is given. -/
structure LoraDriver (Device : Type) where
  loraConfig : Device → ModemConfig → Option Errno → Option Errno × Device
  loraSend : Device → Option Errno → Option Errno × Device
  /-- `lora_recv_async` with a callback -/
  loraRecvAsync : Device → Option Errno → Option Errno × Device
  /-- `lora_recv_async` without a callback -/
  loraRecvStop : Device → Device
  /-- continuous reception is running -/
  receiving : Device → Bool

/-- What the stack relies on. -/
structure LoraDriver.Lawful {Device : Type} (driver : LoraDriver Device) : Prop where
  stops : ∀ device, driver.receiving (driver.loraRecvStop device) = false
  config_quiet : ∀ device config answer, driver.receiving device = false →
    driver.receiving (driver.loraConfig device config answer).2 = false
  send_quiet : ∀ device answer, driver.receiving device = false →
    driver.receiving (driver.loraSend device answer).2 = false
  /-- when reception is stopped, the hardware decides whether it starts -/
  starts : ∀ device answer, driver.receiving device = false →
    (driver.loraRecvAsync device answer).1 = answer ∧
      driver.receiving (driver.loraRecvAsync device answer).2 = answer.isNone

/-! ## State -/

structure RxSlot where
  buf : Octets
  rssi : Int16
  snr : Int8
  bounded : 0 < buf.length ∧ buf.length ≤ PKT_MAX
  deriving DecidableEq

/-- A transmission: what `lora_config` returned, what `lora_send` returned each time, the pauses between, and the
result. -/
structure Transmission where
  configured : Option Errno
  answers : List (Option Errno) := []
  pauses : List UInt32 := []
  ret : Option Errno
  deriving DecidableEq

/-- Where `mt_radio_arm_rx` is called: at the end of a transmission, or by the thread that recovers. -/
inductive ArmCaller where
  | send (sent : Transmission)
  | thread
  deriving DecidableEq

/-- Where a thread is. The names say what it does next. -/
inductive RadioPhase where
  | idle
  | stopping
  | disarming
  | configuring
  | sending (retries : Nat) (answers : List (Option Errno)) (pauses : List UInt32)
  | restoring (sent : Transmission)
  | reporting (sent : Transmission)
  | deaf
  | rechecking
  | arming (caller : ArmCaller)
  | marking (caller : ArmCaller) (ret : Option Errno)
  | leaving (caller : ArmCaller)
  deriving DecidableEq

/-- Between the take and the give of `mt_radio_sem`. -/
def RadioPhase.Inside : RadioPhase → Prop
  | idle => False
  | reporting _ => False
  | deaf => False
  | _ => True

def RadioPhase.CallsModem : RadioPhase → Prop
  | configuring => True
  | sending _ _ _ => True
  | restoring _ => True
  | arming _ => True
  | _ => False

/-- What holds of the driver and of `radio_rx_armed` when a thread is in a phase. -/
def RadioPhase.Fits (receiving rxArmed : Bool) : RadioPhase → Prop
  | stopping => rxArmed = receiving
  | disarming => receiving = false
  | configuring => receiving = false ∧ rxArmed = false
  | sending _ _ _ => receiving = false ∧ rxArmed = false
  | restoring _ => receiving = false ∧ rxArmed = false
  | arming _ => receiving = false ∧ rxArmed = false
  | marking _ ret => receiving = ret.isNone ∧ rxArmed = false
  | rechecking => rxArmed = receiving
  | leaving _ => rxArmed = receiving
  | idle => True
  | deaf => True
  | reporting _ => True

structure RadioStatus where
  txPackets : UInt32 := 0
  txFailures : UInt32 := 0
  rxDropped : UInt32 := 0
  rxRearmFailures : UInt32 := 0
  deriving DecidableEq

/-- `heard` lists the frames that the callback could hand over and `accepted` those that the queue took, oldest
first, `processed` those the processing thread got, and `sends` the transmissions done by each thread, newest first.
The code keeps none of these. -/
structure Radio (Device Name : Type) where
  device : Device
  loraCfg : ModemConfig
  frequency : UInt32
  txPower : Int8
  rxArmed : Bool
  semaphore : Bool
  phases : Name → RadioPhase
  rxQueue : List RxSlot
  status : RadioStatus
  heard : List RxSlot
  accepted : List RxSlot
  processed : List RxSlot
  sends : List (Name × Transmission)

inductive RadioMove (Name : Type) where
  /-- the outbound thread has a frame and takes the semaphore -/
  | send (who : Name)
  /-- the processing thread has waited for the re-arm interval -/
  | timeout (who : Name)
  | get (who : Name)
  /-- a thread that found the radio deaf takes the semaphore -/
  | take (who : Name)
  /-- the next statement of a thread, with what the hardware answers and `sys_rand32_get` gives if they are asked -/
  | go (who : Name) (answer : Option Errno) (rand : UInt32)
  | rxCb (data : Octets) (rssi : Int16) (snr : Int8)
  /-- `mt.frequency` and `mt.tx_power` get new values -/
  | retune (frequency : UInt32) (txPower : Int8)

def mtBusyBackoffMs (build : RadioBuild) (rand : UInt32) : UInt32 :=
  if build.txBusyBackoffMaxMs ≤ build.txBusyBackoffMinMs then build.txBusyBackoffMinMs
  else build.txBusyBackoffMinMs + rand % (build.txBusyBackoffMaxMs - build.txBusyBackoffMinMs + 1)

theorem mtBusyBackoffMs_range (build : RadioBuild) (rand : UInt32) :
    build.txBusyBackoffMinMs.toNat ≤ (mtBusyBackoffMs build rand).toNat ∧
      (mtBusyBackoffMs build rand).toNat ≤ max build.txBusyBackoffMinMs.toNat build.txBusyBackoffMaxMs.toNat := by
  have least := UInt32.le_iff_toNat_le.mp build.txBusyBackoffMinMs_range
  have most := UInt32.le_iff_toNat_le.mp build.txBusyBackoffMaxMs_range
  change _ ≤ 60000 at least
  change _ ≤ 60000 at most
  unfold mtBusyBackoffMs
  split_ifs with order
  · omega
  · have apart : build.txBusyBackoffMinMs.toNat < build.txBusyBackoffMaxMs.toNat := by
      rw [UInt32.le_iff_toNat_le] at order
      omega
    have span : (build.txBusyBackoffMaxMs - build.txBusyBackoffMinMs + 1).toNat =
        build.txBusyBackoffMaxMs.toNat - build.txBusyBackoffMinMs.toNat + 1 := by
      rw [UInt32.toNat_add, UInt32.toNat_sub_of_le _ _ (UInt32.le_iff_toNat_le.mpr (Nat.le_of_lt apart))]
      change (_ + 1) % 2 ^ 32 = _
      omega
    have rest : rand.toNat % (build.txBusyBackoffMaxMs.toNat - build.txBusyBackoffMinMs.toNat + 1) <
        build.txBusyBackoffMaxMs.toNat - build.txBusyBackoffMinMs.toNat + 1 := Nat.mod_lt _ (by omega)
    rw [UInt32.toNat_add, UInt32.toNat_mod, span]
    omega

namespace Radio
variable {Device Name : Type}

def txConfig (radio : Radio Device Name) : ModemConfig :=
  { frequency := radio.frequency, txPower := radio.txPower, tx := true, listenBeforeTalk := true }

def rxConfig (radio : Radio Device Name) : ModemConfig := { radio.loraCfg with tx := false, listenBeforeTalk := false }

variable [DecidableEq Name]

def enter (radio : Radio Device Name) (who : Name) (phase : RadioPhase) : Radio Device Name :=
  { radio with phases := Function.update radio.phases who phase }

/-- What `meshtastic_radio_send_wire_now` does after it has given the semaphore. -/
def report (radio : Radio Device Name) (who : Name) (sent : Transmission) : Radio Device Name :=
  { radio with
    status :=
      if sent.ret.isSome then { radio.status with txFailures := radio.status.txFailures + 1 }
      else { radio.status with txPackets := radio.status.txPackets + 1 }
    sends := (who, sent) :: radio.sends }

/-- The next statement of a thread. -/
def go (driver : LoraDriver Device) (build : RadioBuild) (radio : Radio Device Name) (who : Name)
    (answer : Option Errno) (rand : UInt32) : Option (Radio Device Name) :=
  match radio.phases who with
  | .idle => none
  | .deaf => none
  | .stopping => some ({ radio with device := driver.loraRecvStop radio.device }.enter who .disarming)
  | .disarming => some ({ radio with rxArmed := false }.enter who .configuring)
  | .configuring =>
    let (ret, device) := driver.loraConfig radio.device radio.txConfig answer
    let radio := { radio with loraCfg := radio.txConfig, device := device }
    match ret with
    | some err => some (radio.enter who (.restoring { configured := some err, ret := some err }))
    | none => some (radio.enter who (.sending build.txBusyRetries [] []))
  | .sending retries answers pauses =>
    let (ret, device) := driver.loraSend radio.device answer
    let radio := { radio with device := device }
    if ret ≠ some .ebusy ∨ retries = 0 then
      some (radio.enter who
        (.restoring { configured := none, answers := answers ++ [ret], pauses := pauses, ret := ret }))
    else some (radio.enter who (.sending (retries - 1) (answers ++ [ret]) (pauses ++ [mtBusyBackoffMs build rand])))
  | .restoring sent =>
    let device := (driver.loraConfig radio.device radio.rxConfig answer).2
    some ({ radio with loraCfg := radio.rxConfig, device := device }.enter who (.arming (.send sent)))
  | .rechecking =>
    if radio.rxArmed then some (radio.enter who (.leaving .thread)) else some (radio.enter who (.arming .thread))
  | .arming caller =>
    let (ret, device) := driver.loraRecvAsync radio.device answer
    some ({ radio with device := device }.enter who (.marking caller ret))
  | .marking caller ret =>
    match ret with
    | some _ =>
      some ({ radio with
        rxArmed := false
        status := { radio.status with rxRearmFailures := radio.status.rxRearmFailures + 1 } }.enter who (.leaving caller))
    | none => some ({ radio with rxArmed := true }.enter who (.leaving caller))
  | .leaving .thread => some ({ radio with semaphore := true }.enter who .idle)
  | .leaving (.send sent) => some ({ radio with semaphore := true }.enter who (.reporting sent))
  | .reporting sent => some ((radio.report who sent).enter who .idle)

/-- `mt_rx_cb`: frames of no or of too many bytes are ignored, others go into the queue or are dropped. -/
def mtRxCb (build : RadioBuild) (radio : Radio Device Name) (data : Octets) (rssi : Int16) (snr : Int8) :
    Radio Device Name :=
  if bounded : 0 < data.length ∧ data.length ≤ PKT_MAX then
    let slot : RxSlot := ⟨data, rssi, snr, bounded⟩
    let radio := { radio with heard := radio.heard ++ [slot] }
    if radio.rxQueue.length < build.rxQueueDepth then
      { radio with rxQueue := radio.rxQueue ++ [slot], accepted := radio.accepted ++ [slot] }
    else { radio with status := { radio.status with rxDropped := radio.status.rxDropped + 1 } }
  else radio

def step (driver : LoraDriver Device) (build : RadioBuild) (radio : Radio Device Name) :
    RadioMove Name → Option (Radio Device Name)
  | .send who =>
    if radio.phases who = .idle ∧ radio.semaphore = true then
      some ({ radio with semaphore := false }.enter who .stopping)
    else none
  | .timeout who =>
    if radio.phases who = .idle ∧ radio.rxQueue = [] then
      some (if radio.rxArmed then radio else radio.enter who .deaf)
    else none
  | .get who =>
    match radio.phases who, radio.rxQueue with
    | .idle, slot :: rest => some { radio with rxQueue := rest, processed := radio.processed ++ [slot] }
    | _, _ => none
  | .take who =>
    if radio.phases who = .deaf ∧ radio.semaphore = true then
      some ({ radio with semaphore := false }.enter who .rechecking)
    else none
  | .go who answer rand => radio.go driver build who answer rand
  | .rxCb data rssi snr => some (radio.mtRxCb build data rssi snr)
  | .retune frequency txPower => some { radio with frequency := frequency, txPower := txPower }

/-- `meshtastic_radio_init` has configured the driver for reception, and holds the semaphore to arm it. -/
def start (device : Device) (who : Name) (frequency : UInt32) (txPower : Int8) : Radio Device Name :=
  { device := device
    loraCfg := ⟨frequency, txPower, false, false⟩
    frequency := frequency
    txPower := txPower
    rxArmed := false
    semaphore := false
    phases := Function.update (fun _ => .idle) who (.arming .thread)
    rxQueue := []
    status := {}
    heard := []
    accepted := []
    processed := []
    sends := [] }

def smallRadio : RadioBuild where
  txBusyRetries := 1
  txBusyBackoffMinMs := 8
  txBusyBackoffMaxMs := 40
  rxQueueDepth := 2
  txBusyRetries_range := by decide
  txBusyBackoffMinMs_range := by decide
  txBusyBackoffMaxMs_range := by decide
  rxQueueDepth_range := by decide

def busyDriver : LoraDriver Bool where
  loraConfig receiving _ answer := (if receiving then some .ebusy else answer, receiving)
  loraSend receiving answer := (if receiving then some .ebusy else answer, receiving)
  loraRecvAsync receiving answer := if receiving then (some .ebusy, true) else (answer, answer.isNone)
  loraRecvStop _ := false
  receiving := id

theorem busyDriver_lawful : busyDriver.Lawful where
  stops _ := rfl
  config_quiet _ _ _ quiet := quiet
  send_quiet _ _ quiet := quiet
  starts device answer quiet := by
    change device = false at quiet
    subst quiet
    exact ⟨rfl, rfl⟩

/-- Reception is armed, then another thread transmits on a channel that is busy once, and the hardware refuses to
receive again. -/
def deafeningMoves : List (RadioMove Bool) :=
  [.go false none 0, .go false none 0, .go false none 0, .rxCb [1, 2] 0 0, .send true, .get false, .go true none 0,
    .go true none 0, .go true none 0, .go true (some .ebusy) 5, .go true none 0, .go true none 0,
    .go true (some .eio) 0, .go true none 0, .go true none 0, .go true none 0]

/-! ## Reception and transmission exclude each other -/

open Exclusion

/-- One thread at a time is between the take and the give, each thread finds the driver as its phase
expects, and while the semaphore is free the flag tells whether reception is running. -/
structure Orderly (receiving rxArmed semaphore : Bool) (phases : Name → RadioPhase) : Prop where
  exclusive : Exclusive RadioPhase.Inside semaphore phases
  fits : ∀ who, (phases who).Fits receiving rxArmed
  settled : semaphore = true → rxArmed = receiving

section
variable {receiving receiving' rxArmed rxArmed' semaphore : Bool} {phases : Name → RadioPhase} {who : Name}
  {phase : RadioPhase}

theorem fits_of_outside (outside : ¬phase.Inside) : phase.Fits receiving rxArmed := by
  cases phase with
  | idle => trivial
  | deaf => trivial
  | reporting sent => trivial
  | _ => exact absurd trivial outside

theorem Orderly.take (orderly : Orderly receiving rxArmed semaphore phases) (free : semaphore = true)
    (enters : phase.Inside) (fit : phase.Fits receiving rxArmed) :
    Orderly receiving rxArmed false (Function.update phases who phase) := by
  rw [free] at orderly
  refine ⟨orderly.exclusive.take who enters, ?_, fun open_ => by cases open_⟩
  intro other
  by_cases here : other = who
  · rw [here, Function.update_self]
    exact fit
  · rw [Function.update_of_ne here]
    exact orderly.fits other

/-- The thread that is inside goes on, whatever it does to the driver and the flag. -/
theorem Orderly.within (orderly : Orderly receiving rxArmed semaphore phases) (here : (phases who).Inside)
    (stays : phase.Inside) (fit : phase.Fits receiving' rxArmed') :
    Orderly receiving' rxArmed' semaphore (Function.update phases who phase) := by
  have taken := orderly.exclusive.taken here
  refine ⟨orderly.exclusive.stay (iff_of_true stays here), ?_, fun open_ => by rw [taken] at open_; cases open_⟩
  intro other
  by_cases same : other = who
  · rw [same, Function.update_self]
    exact fit
  · rw [Function.update_of_ne same]
    exact fits_of_outside (orderly.exclusive.others here same)

theorem Orderly.give (orderly : Orderly receiving rxArmed semaphore phases) (here : (phases who).Inside)
    (leaves : ¬phase.Inside) (settled : rxArmed = receiving) :
    Orderly receiving rxArmed true (Function.update phases who phase) := by
  refine ⟨orderly.exclusive.give here leaves, ?_, fun _ => settled⟩
  intro other
  by_cases same : other = who
  · rw [same, Function.update_self]
    exact fits_of_outside leaves
  · rw [Function.update_of_ne same]
    exact orderly.fits other

theorem Orderly.outside (orderly : Orderly receiving rxArmed semaphore phases) (before : ¬(phases who).Inside)
    (behind : ¬phase.Inside) : Orderly receiving rxArmed semaphore (Function.update phases who phase) := by
  refine ⟨orderly.exclusive.stay (iff_of_false behind before), ?_, orderly.settled⟩
  intro other
  by_cases same : other = who
  · rw [same, Function.update_self]
    exact fits_of_outside behind
  · rw [Function.update_of_ne same]
    exact orderly.fits other

end

section
variable {driver : LoraDriver Device} {build : RadioBuild} {radio next : Radio Device Name} {who : Name}
  {answer : Option Errno} {rand : UInt32}

/-- The control state of the transceiver is in order. -/
def InOrder (driver : LoraDriver Device) (radio : Radio Device Name) : Prop :=
  Orderly (driver.receiving radio.device) radio.rxArmed radio.semaphore radio.phases

theorem InOrder.go (lawful : driver.Lawful) (order : radio.InOrder driver)
    (taken : radio.go driver build who answer rand = some next) : next.InOrder driver := by
  have fit := order.fits who
  cases phase : radio.phases who with
  | idle => simp [Radio.go, phase] at taken
  | deaf => simp [Radio.go, phase] at taken
  | stopping =>
    simp only [Radio.go, phase, Option.some.injEq] at taken
    subst taken
    exact order.within (by rw [phase]; trivial) trivial (lawful.stops radio.device)
  | disarming =>
    rw [phase] at fit
    simp only [Radio.go, phase, Option.some.injEq] at taken
    subst taken
    exact order.within (by rw [phase]; trivial) trivial ⟨fit, rfl⟩
  | configuring =>
    rw [phase] at fit
    obtain ⟨quiet, unarmed⟩ := fit
    have still := lawful.config_quiet radio.device radio.txConfig answer quiet
    simp only [Radio.go, phase] at taken
    split at taken
    all_goals
      cases taken
      exact order.within (by rw [phase]; trivial) trivial ⟨still, unarmed⟩
  | sending retries answers pauses =>
    rw [phase] at fit
    obtain ⟨quiet, unarmed⟩ := fit
    have still := lawful.send_quiet radio.device answer quiet
    simp only [Radio.go, phase] at taken
    split_ifs at taken
    all_goals
      cases taken
      exact order.within (by rw [phase]; trivial) trivial ⟨still, unarmed⟩
  | restoring sent =>
    rw [phase] at fit
    obtain ⟨quiet, unarmed⟩ := fit
    have still := lawful.config_quiet radio.device radio.rxConfig answer quiet
    simp only [Radio.go, phase, Option.some.injEq] at taken
    subst taken
    exact order.within (by rw [phase]; trivial) trivial ⟨still, unarmed⟩
  | reporting sent =>
    simp only [Radio.go, phase, Option.some.injEq] at taken
    subst taken
    exact order.outside (by rw [phase]; exact id) id
  | rechecking =>
    rw [phase] at fit
    change radio.rxArmed = driver.receiving radio.device at fit
    simp only [Radio.go, phase] at taken
    split_ifs at taken with armed
    · cases taken
      exact order.within (by rw [phase]; trivial) trivial fit
    · cases taken
      have unarmed := Bool.eq_false_iff.mpr armed
      exact order.within (by rw [phase]; trivial) trivial ⟨fit.symm.trans unarmed, unarmed⟩
  | arming caller =>
    rw [phase] at fit
    obtain ⟨quiet, unarmed⟩ := fit
    obtain ⟨answered, started⟩ := lawful.starts radio.device answer quiet
    simp only [Radio.go, phase, Option.some.injEq] at taken
    subst taken
    exact order.within (by rw [phase]; trivial) trivial ⟨by rw [answered]; exact started, unarmed⟩
  | marking caller ret =>
    rw [phase] at fit
    obtain ⟨answered, unarmed⟩ := fit
    cases ret with
    | some err =>
      simp only [Radio.go, phase, Option.some.injEq] at taken
      subst taken
      exact order.within (by rw [phase]; trivial) trivial answered.symm
    | none =>
      simp only [Radio.go, phase, Option.some.injEq] at taken
      subst taken
      exact order.within (by rw [phase]; trivial) trivial answered.symm
  | leaving caller =>
    rw [phase] at fit
    cases caller with
    | thread =>
      simp only [Radio.go, phase, Option.some.injEq] at taken
      subst taken
      exact order.give (by rw [phase]; trivial) id fit
    | send sent =>
      simp only [Radio.go, phase, Option.some.injEq] at taken
      subst taken
      exact order.give (by rw [phase]; trivial) id fit

theorem InOrder.step {move : RadioMove Name} (lawful : driver.Lawful) (order : radio.InOrder driver)
    (taken : radio.step driver build move = some next) : next.InOrder driver := by
  cases move with
  | send who =>
    simp only [Radio.step] at taken
    split_ifs at taken with ready
    cases taken
    exact order.take ready.2 trivial (order.settled ready.2)
  | timeout who =>
    simp only [Radio.step] at taken
    split_ifs at taken with ready armed
    · cases taken
      exact order
    · cases taken
      exact order.outside (by rw [ready.1]; exact id) id
  | get who =>
    simp only [Radio.step] at taken
    split at taken
    · cases taken
      exact order
    · cases taken
  | take who =>
    simp only [Radio.step] at taken
    split_ifs at taken with ready
    cases taken
    exact order.take ready.2 trivial (order.settled ready.2)
  | go who answer rand => exact order.go lawful taken
  | rxCb data rssi snr =>
    cases taken
    unfold mtRxCb
    dsimp only
    split_ifs
    · exact order
    · exact order
    · exact order
  | retune frequency txPower =>
    cases taken
    exact order

theorem start_inOrder {device : Device} (quiet : driver.receiving device = false) (who : Name) (frequency : UInt32)
    (txPower : Int8) : (start device who frequency txPower).InOrder driver where
  exclusive := by
    have empty : Exclusive RadioPhase.Inside true (fun _ : Name => RadioPhase.idle) :=
      ⟨⟨fun _ _ => id, fun _ => rfl⟩, fun _ _ inside => inside.elim⟩
    exact empty.take who trivial
  fits := by
    intro other
    simp only [start]
    by_cases here : other = who
    · rw [here, Function.update_self]
      exact ⟨quiet, rfl⟩
    · rw [Function.update_of_ne here]
      trivial
  settled := fun open_ => by cases open_

theorem run_inOrder (lawful : driver.Lawful) {device : Device} (quiet : driver.receiving device = false) {init : Name}
    {frequency : UInt32} {txPower : Int8} {moves : List (RadioMove Name)}
    (whole : Transition.run (step driver build) (start device init frequency txPower) moves = some next) :
    next.InOrder driver := by
  refine Transition.run_invariant (fun _ _ _ order _ => order.step lawful) ?_ (Transition.guarded_true _ moves) whole
  exact start_inOrder quiet init frequency txPower

omit [DecidableEq Name] in
/-- A thread that is about to call the modem finds reception stopped. -/
theorem InOrder.quiet (order : radio.InOrder driver) (calls : (radio.phases who).CallsModem) :
    driver.receiving radio.device = false := by
  have fit := order.fits who
  cases phase : radio.phases who with
  | configuring =>
    rw [phase] at fit
    exact fit.1
  | sending retries answers pauses =>
    rw [phase] at fit
    exact fit.1
  | restoring sent =>
    rw [phase] at fit
    exact fit.1
  | arming caller =>
    rw [phase] at fit
    exact fit.1
  | _ =>
    rw [phase] at calls
    exact calls.elim

end

/-- Whatever the threads do and the hardware answers: one thread at a time is between the take and the give of
the semaphore, no call to configure, to send or to receive is made while reception is running, and while
the semaphore is free the flag tells whether it is. -/
theorem transceiver_exclusive (driver : LoraDriver Device) (lawful : driver.Lawful) (build : RadioBuild)
    (device : Device) (quiet : driver.receiving device = false) (init : Name) (frequency : UInt32) (txPower : Int8)
    (moves : List (RadioMove Name)) (last : Radio Device Name)
    (whole : Transition.run (step driver build) (start device init frequency txPower) moves = some last) :
    (∀ who other, (last.phases who).Inside → (last.phases other).Inside → who = other) ∧
      (∀ who, (last.phases who).CallsModem → driver.receiving last.device = false) ∧
      (last.semaphore = true → last.rxArmed = driver.receiving last.device) := by
  have order := run_inOrder lawful quiet whole
  exact ⟨order.exclusive.one, fun _ => order.quiet, order.settled⟩

theorem transceiver_exclusive_sending :
    ∃ last, Transition.run (step busyDriver smallRadio) (start false false 869525000 14) (deafeningMoves.take 9) =
        some last ∧
      last.phases true = .sending 1 [] [] ∧ busyDriver.receiving last.device = false :=
  ⟨_, rfl, rfl, (transceiver_exclusive busyDriver busyDriver_lawful smallRadio false rfl false 869525000 14
    (deafeningMoves.take 9) _ rfl).2.1 true trivial⟩

/-! ## A radio that could not be re-armed -/

def attempt (who : Name) (answer : Option Errno) : List (RadioMove Name) :=
  [.take who, .go who none 0, .go who answer 0, .go who none 0, .go who none 0]

def round (who : Name) (answer : Option Errno) : List (RadioMove Name) := .timeout who :: attempt who answer

def drained (radio : Radio Device Name) : Radio Device Name :=
  { radio with rxQueue := [], processed := radio.processed ++ radio.rxQueue }

section
variable {driver : LoraDriver Device} {build : RadioBuild} {radio : Radio Device Name} {who : Name}

end

end Radio

end Meshtastic
