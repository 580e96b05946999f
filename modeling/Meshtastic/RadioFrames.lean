import Meshtastic.Radio

/-! What the transceiver does with single frames: how often a transmission is attempted and how it is counted,
and the way of a received frame from the driver's callback to the processing thread. -/

namespace Meshtastic
open Bytes

/-! ## Attempts -/

/-- If the configuration fails, a transmission makes no attempt and gives the failure back. Else it ends with the first
answer that is not "busy", or when its retries are used up; it pauses after each attempt but the last. -/
def Transmission.Sound (build : RadioBuild) (sent : Transmission) : Prop :=
  (∃ err, sent.configured = some err ∧ sent.ret = some err ∧ sent.answers = [] ∧ sent.pauses = []) ∨
    ∃ busy, sent.configured = none ∧ busy ≤ build.txBusyRetries ∧
      sent.answers = List.replicate busy (some .ebusy) ++ [sent.ret] ∧
      (sent.ret = some .ebusy → busy = build.txBusyRetries) ∧ sent.pauses.length = busy ∧
      ∀ pause ∈ sent.pauses, build.txBusyBackoffMinMs.toNat ≤ pause.toNat ∧
        pause.toNat ≤ max build.txBusyBackoffMinMs.toNat build.txBusyBackoffMaxMs.toNat

/-- What a thread knows of its own transmission. -/
def RadioPhase.Tries (build : RadioBuild) : RadioPhase → Prop
  | sending retries answers pauses =>
    retries ≤ build.txBusyRetries ∧ answers = List.replicate (build.txBusyRetries - retries) (some .ebusy) ∧
      pauses.length = build.txBusyRetries - retries ∧
      ∀ pause ∈ pauses, build.txBusyBackoffMinMs.toNat ≤ pause.toNat ∧
        pause.toNat ≤ max build.txBusyBackoffMinMs.toNat build.txBusyBackoffMaxMs.toNat
  | restoring sent => sent.Sound build
  | arming (.send sent) => sent.Sound build
  | marking (.send sent) _ => sent.Sound build
  | leaving (.send sent) => sent.Sound build
  | reporting sent => sent.Sound build
  | _ => True

def RadioPhase.transmits : RadioPhase → Bool
  | stopping => true
  | disarming => true
  | configuring => true
  | sending _ _ _ => true
  | restoring _ => true
  | arming (.send _) => true
  | marking (.send _) _ => true
  | leaving (.send _) => true
  | reporting _ => true
  | _ => false

def RadioMove.sender {Name : Type} : RadioMove Name → Option Name
  | send who => some who
  | _ => none

namespace Radio
variable {Device Name : Type} [DecidableEq Name]

/-- The transmissions of a thread, done and under way. -/
def started (radio : Radio Device Name) (who : Name) : Nat :=
  radio.sends.countP (fun sent => sent.1 = who) + (radio.phases who).transmits.toNat

/-- Transmissions in progress and done are sound, and the counters count those done. -/
structure Counted (build : RadioBuild) (radio : Radio Device Name) : Prop where
  tries : ∀ who, (radio.phases who).Tries build
  sound : ∀ sent ∈ radio.sends, sent.2.Sound build
  packets : radio.status.txPackets = UInt32.ofNat (radio.sends.countP (·.2.ret.isNone))
  failures : radio.status.txFailures = UInt32.ofNat (radio.sends.countP (·.2.ret.isSome))

section
variable {driver : LoraDriver Device} {build : RadioBuild} {radio next : Radio Device Name} {who : Name}
  {answer : Option Errno} {rand : UInt32}

theorem Counted.enter (counted : radio.Counted build) {phase : RadioPhase}
    (phases : next.phases = Function.update radio.phases who phase) (sends : next.sends = radio.sends)
    (packets : next.status.txPackets = radio.status.txPackets)
    (failures : next.status.txFailures = radio.status.txFailures) (tries : phase.Tries build) : next.Counted build where
  tries := by
    intro other
    rw [phases]
    by_cases here : other = who
    · rw [here, Function.update_self]
      exact tries
    · rw [Function.update_of_ne here]
      exact counted.tries other
  sound := by rw [sends]; exact counted.sound
  packets := by rw [packets, sends]; exact counted.packets
  failures := by rw [failures, sends]; exact counted.failures

omit [DecidableEq Name] in
theorem Counted.report (counted : radio.Counted build) (who : Name) {sent : Transmission} (sound : sent.Sound build) :
    (radio.report who sent).Counted build where
  tries := counted.tries
  sound := by
    intro other member
    rcases List.mem_cons.mp member with here | older
    · rw [here]
      exact sound
    · exact counted.sound other older
  packets := by
    have before := counted.packets
    unfold Radio.report
    cases failed : sent.ret with
    | some err => simp [failed, before]
    | none => simp [failed, before, UInt32.ofNat_add]
  failures := by
    have before := counted.failures
    unfold Radio.report
    cases failed : sent.ret with
    | some err => simp [failed, before, UInt32.ofNat_add]
    | none => simp [failed, before]

theorem attempt_sound {retries : Nat} {answers : List (Option Errno)} {pauses : List UInt32} {ret : Option Errno}
    (tries : (RadioPhase.sending retries answers pauses).Tries build) (ends : ret ≠ some .ebusy ∨ retries = 0) :
    Transmission.Sound build { configured := none, answers := answers ++ [ret], pauses := pauses, ret := ret } := by
  obtain ⟨bound, shape, paused, range⟩ := tries
  refine Or.inr ⟨build.txBusyRetries - retries, rfl, by omega, by rw [shape], ?_, paused, range⟩
  intro busy
  rcases ends with other | none
  · exact absurd busy other
  · omega

theorem attempt_again {retries : Nat} {answers : List (Option Errno)} {pauses : List UInt32} (some_ : retries ≠ 0)
    (tries : (RadioPhase.sending retries answers pauses).Tries build) (rand : UInt32) :
    (RadioPhase.sending (retries - 1) (answers ++ [some .ebusy]) (pauses ++ [mtBusyBackoffMs build rand])).Tries
      build := by
  obtain ⟨bound, shape, paused, range⟩ := tries
  have one : build.txBusyRetries - (retries - 1) = (build.txBusyRetries - retries) + 1 := by omega
  refine ⟨by omega, ?_, ?_, ?_⟩
  · rw [one, List.replicate_succ', shape]
  · rw [one, List.length_append, paused, List.length_singleton]
  · intro pause member
    rcases List.mem_append.mp member with older | last
    · exact range pause older
    · rw [List.mem_singleton.mp last]
      exact mtBusyBackoffMs_range build rand

theorem Counted.go (counted : radio.Counted build) (taken : radio.go driver build who answer rand = some next) :
    next.Counted build := by
  have tries := counted.tries who
  cases phase : radio.phases who with
  | idle => simp [Radio.go, phase] at taken
  | deaf => simp [Radio.go, phase] at taken
  | stopping =>
    simp only [Radio.go, phase, Option.some.injEq] at taken
    subst taken
    exact counted.enter rfl rfl rfl rfl trivial
  | disarming =>
    simp only [Radio.go, phase, Option.some.injEq] at taken
    subst taken
    exact counted.enter rfl rfl rfl rfl trivial
  | configuring =>
    simp only [Radio.go, phase] at taken
    split at taken
    next err refused =>
      cases taken
      exact counted.enter rfl rfl rfl rfl (Or.inl ⟨err, rfl, rfl, rfl, rfl⟩)
    next accepted =>
      cases taken
      refine counted.enter rfl rfl rfl rfl ⟨le_refl _, by rw [Nat.sub_self]; rfl, (Nat.sub_self _).symm, ?_⟩
      exact fun _ none => False.elim (List.not_mem_nil none)
  | sending retries answers pauses =>
    rw [phase] at tries
    simp only [Radio.go, phase] at taken
    split_ifs at taken with ends
    · cases taken
      exact counted.enter rfl rfl rfl rfl (attempt_sound tries ends)
    · rw [not_or, not_not] at ends
      cases taken
      rw [ends.1]
      exact counted.enter rfl rfl rfl rfl (attempt_again ends.2 tries rand)
  | restoring sent =>
    rw [phase] at tries
    simp only [Radio.go, phase, Option.some.injEq] at taken
    subst taken
    exact counted.enter rfl rfl rfl rfl tries
  | reporting sent =>
    rw [phase] at tries
    simp only [Radio.go, phase, Option.some.injEq] at taken
    subst taken
    exact (counted.report who tries).enter rfl rfl rfl rfl trivial
  | rechecking =>
    simp only [Radio.go, phase] at taken
    split_ifs at taken
    all_goals
      cases taken
      exact counted.enter rfl rfl rfl rfl trivial
  | arming caller =>
    rw [phase] at tries
    simp only [Radio.go, phase, Option.some.injEq] at taken
    subst taken
    cases caller with
    | thread => exact counted.enter rfl rfl rfl rfl trivial
    | send sent => exact counted.enter rfl rfl rfl rfl tries
  | marking caller ret =>
    rw [phase] at tries
    have later : (RadioPhase.leaving caller).Tries build := by
      cases caller with
      | thread => trivial
      | send sent => exact tries
    simp only [Radio.go, phase] at taken
    split at taken
    all_goals
      cases taken
      exact counted.enter rfl rfl rfl rfl later
  | leaving caller =>
    rw [phase] at tries
    cases caller with
    | thread =>
      simp only [Radio.go, phase, Option.some.injEq] at taken
      subst taken
      exact counted.enter rfl rfl rfl rfl trivial
    | send sent =>
      simp only [Radio.go, phase, Option.some.injEq] at taken
      subst taken
      exact counted.enter rfl rfl rfl rfl tries

theorem Counted.step {move : RadioMove Name} (counted : radio.Counted build)
    (taken : radio.step driver build move = some next) : next.Counted build := by
  cases move with
  | send who =>
    simp only [Radio.step] at taken
    split_ifs at taken
    cases taken
    exact counted.enter rfl rfl rfl rfl trivial
  | timeout who =>
    simp only [Radio.step] at taken
    split_ifs at taken
    · cases taken
      exact counted
    · cases taken
      exact counted.enter rfl rfl rfl rfl trivial
  | get who =>
    simp only [Radio.step] at taken
    split at taken
    · cases taken
      exact ⟨counted.tries, counted.sound, counted.packets, counted.failures⟩
    · cases taken
  | take who =>
    simp only [Radio.step] at taken
    split_ifs at taken
    cases taken
    exact counted.enter rfl rfl rfl rfl trivial
  | go who answer rand => exact counted.go taken
  | rxCb data rssi snr =>
    cases taken
    unfold mtRxCb
    dsimp only
    split_ifs
    all_goals exact ⟨counted.tries, counted.sound, counted.packets, counted.failures⟩
  | retune frequency txPower =>
    cases taken
    exact ⟨counted.tries, counted.sound, counted.packets, counted.failures⟩

end

/-- The frames among the moves that the callback can hand over, oldest first. -/
def handedOver (moves : List (RadioMove Name)) : List RxSlot :=
  moves.filterMap fun move =>
    match move with
    | .rxCb data rssi snr =>
      if bounded : 0 < data.length ∧ data.length ≤ PKT_MAX then some ⟨data, rssi, snr, bounded⟩ else none
    | _ => none

/-- The way of the received frames: what was accepted is in the queue or has been processed, in the order of
arrival, and what was not is counted. -/
structure Passed (build : RadioBuild) (radio : Radio Device Name) : Prop where
  order : radio.accepted = radio.processed ++ radio.rxQueue
  room : radio.rxQueue.length ≤ build.rxQueueDepth
  among : radio.accepted.Sublist radio.heard
  dropped : radio.status.rxDropped = UInt32.ofNat (radio.heard.length - radio.accepted.length)

/-- No received frame has moved, and none was dropped. -/
structure SameFrames (radio next : Radio Device Name) : Prop where
  rxQueue : next.rxQueue = radio.rxQueue
  heard : next.heard = radio.heard
  accepted : next.accepted = radio.accepted
  processed : next.processed = radio.processed
  dropped : next.status.rxDropped = radio.status.rxDropped

section
variable {driver : LoraDriver Device} {build : RadioBuild} {radio next : Radio Device Name} {who : Name}
  {answer : Option Errno} {rand : UInt32}

theorem go_sameFrames (taken : radio.go driver build who answer rand = some next) : radio.SameFrames next := by
  cases phase : radio.phases who with
  | idle => simp [Radio.go, phase] at taken
  | deaf => simp [Radio.go, phase] at taken
  | reporting sent =>
    simp only [Radio.go, phase, Option.some.injEq] at taken
    subst taken
    refine ⟨rfl, rfl, rfl, rfl, ?_⟩
    simp only [report, Radio.enter]
    split_ifs
    · rfl
    · rfl
  | leaving caller =>
    cases caller with
    | thread =>
      simp only [Radio.go, phase, Option.some.injEq] at taken
      subst taken
      exact ⟨rfl, rfl, rfl, rfl, rfl⟩
    | send sent =>
      simp only [Radio.go, phase, Option.some.injEq] at taken
      subst taken
      exact ⟨rfl, rfl, rfl, rfl, rfl⟩
  | _ =>
    simp only [Radio.go, phase] at taken
    first
      | (cases taken; exact ⟨rfl, rfl, rfl, rfl, rfl⟩)
      | (split at taken <;> (cases taken; exact ⟨rfl, rfl, rfl, rfl, rfl⟩))

omit [DecidableEq Name] in
theorem Passed.same (passed : radio.Passed build) (same : radio.SameFrames next) : next.Passed build where
  order := by rw [same.accepted, same.processed, same.rxQueue]; exact passed.order
  room := by rw [same.rxQueue]; exact passed.room
  among := by rw [same.accepted, same.heard]; exact passed.among
  dropped := by rw [same.dropped, same.heard, same.accepted]; exact passed.dropped

omit [DecidableEq Name] in
theorem Passed.rxCb (passed : radio.Passed build) (data : Octets) (rssi : Int16) (snr : Int8) :
    (radio.mtRxCb build data rssi snr).Passed build := by
  have fewer := passed.among.length_le
  unfold mtRxCb
  dsimp only
  split_ifs with bounded room
  · refine ⟨?_, ?_, ?_, ?_⟩
    · simp only [passed.order, List.append_assoc]
    · simp only [List.length_append, List.length_singleton]
      omega
    · exact passed.among.append (List.Sublist.refl _)
    · simp only [List.length_append, List.length_singleton, passed.dropped]
      congr 1
      omega
  · refine ⟨passed.order, passed.room, ?_, ?_⟩
    · exact passed.among.trans (List.sublist_append_left _ _)
    · have more : radio.heard.length + 1 - radio.accepted.length = radio.heard.length - radio.accepted.length + 1 := by
        omega
      simp only [List.length_append, List.length_singleton, passed.dropped, more, UInt32.ofNat_add]
      rfl
  · exact passed

theorem Passed.step {move : RadioMove Name} (passed : radio.Passed build)
    (taken : radio.step driver build move = some next) : next.Passed build := by
  cases move with
  | send who =>
    simp only [Radio.step] at taken
    split_ifs at taken
    cases taken
    exact passed.same ⟨rfl, rfl, rfl, rfl, rfl⟩
  | timeout who =>
    simp only [Radio.step] at taken
    split_ifs at taken
    all_goals
      cases taken
      exact passed.same ⟨rfl, rfl, rfl, rfl, rfl⟩
  | get who =>
    simp only [Radio.step] at taken
    split at taken
    next slot rest _ waiting =>
      cases taken
      have room := passed.room
      rw [waiting, List.length_cons] at room
      refine ⟨?_, Nat.le_of_succ_le room, passed.among, passed.dropped⟩
      rw [passed.order, waiting, List.append_assoc]
      rfl
    next => cases taken
  | take who =>
    simp only [Radio.step] at taken
    split_ifs at taken
    cases taken
    exact passed.same ⟨rfl, rfl, rfl, rfl, rfl⟩
  | go who answer rand => exact passed.same (go_sameFrames taken)
  | rxCb data rssi snr =>
    cases taken
    exact passed.rxCb data rssi snr
  | retune frequency txPower =>
    cases taken
    exact passed.same ⟨rfl, rfl, rfl, rfl, rfl⟩

theorem step_heard {move : RadioMove Name} (taken : radio.step driver build move = some next) :
    next.heard = radio.heard ++ handedOver [move] := by
  cases move with
  | rxCb data rssi snr =>
    cases taken
    by_cases bounded : 0 < data.length ∧ data.length ≤ PKT_MAX
    · simp only [mtRxCb, handedOver, List.filterMap_cons, dif_pos bounded, List.filterMap_nil]
      split_ifs
      · rfl
      · rfl
    · simp only [mtRxCb, handedOver, List.filterMap_cons, dif_neg bounded, List.filterMap_nil, List.append_nil]
  | go who answer rand =>
    rw [(go_sameFrames taken).heard]
    exact (List.append_nil _).symm
  | get who =>
    simp only [Radio.step] at taken
    split at taken
    · cases taken
      exact (List.append_nil _).symm
    · cases taken
  | retune frequency txPower =>
    cases taken
    exact (List.append_nil _).symm
  | _ =>
    simp only [Radio.step] at taken
    split_ifs at taken
    all_goals
      cases taken
      exact (List.append_nil _).symm

theorem run_heard {moves : List (RadioMove Name)} (whole : Transition.run (step driver build) radio moves = some next) :
    next.heard = radio.heard ++ handedOver moves := by
  induction moves generalizing radio with
  | nil =>
    cases whole
    exact (List.append_nil _).symm
  | cons move rest ih =>
    obtain ⟨middle, taken, later⟩ := Transition.run_cons_eq_some.mp whole
    rw [ih later, step_heard taken, List.append_assoc]
    congr 1
    rw [← List.singleton_append]
    exact List.filterMap_append.symm

end

/-- The processing thread gets the frames in the order in which the driver received them, each at most once; at
most the queue's depth of them wait; and every frame it will never get is counted as dropped. -/
theorem received_in_order (driver : LoraDriver Device) (build : RadioBuild) (device : Device) (init : Name)
    (frequency : UInt32) (txPower : Int8) (moves : List (RadioMove Name)) (last : Radio Device Name)
    (whole : Transition.run (step driver build) (start device init frequency txPower) moves = some last) :
    (last.processed ++ last.rxQueue).Sublist (handedOver moves) ∧ last.rxQueue.length ≤ build.rxQueueDepth ∧
      last.status.rxDropped =
        UInt32.ofNat ((handedOver moves).length - (last.processed.length + last.rxQueue.length)) ∧
      ((handedOver moves).length = last.processed.length + last.rxQueue.length →
        last.processed ++ last.rxQueue = handedOver moves) := by
  have passed : last.Passed build := by
    refine Transition.run_invariant (fun _ _ _ passed _ => passed.step) ?_ (Transition.guarded_true _ moves) whole
    exact ⟨rfl, Nat.zero_le _, List.Sublist.refl _, rfl⟩
  have heard : last.heard = handedOver moves := run_heard whole
  have among := passed.among
  have dropped := passed.dropped
  rw [passed.order, heard] at among dropped
  refine ⟨among, passed.room, by rw [dropped, List.length_append], ?_⟩
  intro all
  exact among.eq_of_length (by rw [List.length_append, all])

theorem received_in_order_oneFrame :
    ∃ last, Transition.run (step busyDriver smallRadio) (start false false 869525000 14) deafeningMoves = some last ∧
      last.processed = [⟨[1, 2], 0, 0, by decide⟩] ∧
      (last.processed ++ last.rxQueue).Sublist (handedOver deafeningMoves) :=
  ⟨_, rfl, rfl, (received_in_order busyDriver smallRadio false false 869525000 14 deafeningMoves _ rfl).1⟩

end Radio

end Meshtastic
