import Meshtastic.Lib.History
import Meshtastic.Lib.Run
import Meshtastic.Lib.TopicFilter
import Meshtastic.Mqtt
import Meshtastic.StoreExport

/-! The session with the broker (`meshtastic_mqtt.c`). One thread connects, subscribes, publishes what waits in the
queue and reads, while other threads fill the queue and the network comes and goes. -/

namespace Meshtastic
open Bytes TopicFilter

def MQTT_NET_WAIT_MS : Int := 2000
def MQTT_PUBLISH_BUDGET_PER_LOOP : Nat := 2
def MQTT_PUBLISH_BUDGET_ON_CONNECT : Nat := 8

/-! ## Topics -/

def mqttMarks : Marks UInt8 := ⟨0x2f, 0x2b, 0x23⟩

section
variable (mq : MqttConfig)

def mqttBuildSubscribeTopic (t : ChannelTable) : Octets :=
  (mq.root.truncate (MQTT_PREFIX_SIZE - 1)).bytes ++ CRYPT_TOPIC_SUFFIX ++ (runtimeChannelName t).bytes ++ [0x2f, 0x2b]

/-- Nothing in the root and in the name of the primary channel is a wildcard. -/
structure PlainTopic (t : ChannelTable) : Prop where
  root : Literal mqttMarks ((mq.root.truncate (MQTT_PREFIX_SIZE - 1)).bytes.splitOn mqttMarks.separator)
  name : Literal mqttMarks ((runtimeChannelName t).bytes.splitOn mqttMarks.separator)

instance (t : ChannelTable) : Decidable (PlainTopic mq t) :=
  decidable_of_iff
    (Literal mqttMarks ((mq.root.truncate (MQTT_PREFIX_SIZE - 1)).bytes.splitOn mqttMarks.separator) ∧
      Literal mqttMarks ((runtimeChannelName t).bytes.splitOn mqttMarks.separator))
    ⟨fun both => ⟨both.1, both.2⟩, fun plain => ⟨plain.root, plain.name⟩⟩

end

/-! ## The thread -/

structure SessionBuild extends MqttConfig where
  reconnectIntervalMs : Nat
  reconnectIntervalMs_range : 1000 ≤ reconnectIntervalMs ∧ reconnectIntervalMs ≤ 60000

/-- The connection as the client library and the broker have it, with the filter that was sent to the broker on it. No
SUBACK is awaited or read. -/
inductive BrokerLink where
  | closed
  | opened
  | acknowledged (filter : Option Octets)
  deriving DecidableEq

inductive SessionPhase where
  | top
  | offline
  | resolving
  /-- in `mqtt_try_connect`, until `mqtt_input` has returned -/
  | awaiting
  /-- `mqtt_drain_queue` in the handler of the acknowledgement -/
  | greeting (left : Nat)
  | subscribing
  | online
  /-- `mqtt_drain_queue` in the loop, before and behind `mqtt_process_once` -/
  | draining (left : Nat) (second : Bool)
  | processing
  | reporting
  | sleeping (wake : Int)
  deriving DecidableEq

/-- What `mqtt_publish` does: it succeeds, fails, or finds the connection broken and calls the event handler. -/
inductive PublishAnswer where
  | done
  | failed
  | lost
  deriving DecidableEq

inductive SessionEvent where
  | loop
  | attempt (now : Int)
  | accepted
  /-- an entry of the queue is handed to `mqtt_publish`, by the handler of the acknowledgement or in the loop -/
  | handed (greeting : Bool) (link : BrokerLink) (entry : MqttPubEntry)
  | reported (link : BrokerLink) (entry : MqttPubEntry)
  deriving DecidableEq

/-- The part of `mqtt_ctx` that the thread works with. Clock, link and log, newest event first, are not in the
code. -/
structure Session where
  phase : SessionPhase
  connected : Bool
  disconnectPending : Bool
  netHasIpv4 : Bool
  queue : List MqttPubEntry
  link : BrokerLink
  clock : Int
  log : List SessionEvent

inductive SessionMove where
  /-- `mqtt_handle_disconnect_pending` at the top of the loop -/
  | handle
  /-- `mqtt_network_is_ready`, given whether the interface has an address -/
  | check (iface : Bool)
  /-- `mqtt_resolve_broker` and `mqtt_connect` -/
  | connect (ret : Option Errno)
  /-- MQTT_EVT_CONNACK -/
  | connack (accepted : Bool)
  /-- MQTT_EVT_DISCONNECT out of `mqtt_input` or `mqtt_live` -/
  | lost
  /-- `mqtt_input` or `mqtt_live` returns -/
  | inputDone (ret : Option Errno)
  /-- `mqtt_subscribe_downlink` -/
  | subscribe (t : ChannelTable) (ret : Option Errno)
  /-- the loop in `mqtt_drain_queue` is entered once more, or left -/
  | drain (answer : PublishAnswer)
  /-- `mqtt_perhaps_report_to_map`, given what it publishes if it does -/
  | report (publication : Option (MqttPubEntry × PublishAnswer))
  | wake
  /-- `mqtt_net_event_handler` -/
  | net (up : Bool)
  /-- another thread queues an entry -/
  | enqueue (entry : MqttPubEntry)
  | pass (now : Int)

namespace Session

section
variable (build : SessionBuild)

def mqttEnqueue (queue : List MqttPubEntry) (entry : MqttPubEntry) : List MqttPubEntry :=
  mqttMakeRoom build.toMqttConfig queue ++ [entry]

def close (session : Session) : Session := { session with connected := false, link := .closed }

/-- `mqtt_disconnect` and the wait before the next attempt. -/
def retry (session : Session) : Session :=
  { session.close with phase := .sleeping (session.clock + build.reconnectIntervalMs) }

def mqttHandleDisconnectPending (session : Session) : Session :=
  if session.disconnectPending = false then session
  else if session.connected = false then { session with disconnectPending := false }
  else { session.close with disconnectPending := false }

/-- `mqtt_do_publish` of an entry. -/
def mqttDoPublish (session : Session) (answer : PublishAnswer) : Session :=
  match answer with
  | .lost => session.close
  | _ => session

/-- One round of the loop in `mqtt_drain_queue`: an entry that is handed over, unless the budget is used up, the
queue is empty or the connection is gone. -/
def drainRound (session : Session) (greeting : Bool) (left : Nat) (answer : PublishAnswer) : Option (Session × Nat) :=
  match session.queue, left with
  | entry :: rest, left + 1 =>
    if session.connected = false then none
    else
      let session := { session with queue := rest, log := .handed greeting session.link entry :: session.log }
      some (session.mqttDoPublish answer, left)
  | _, _ => none

def step (session : Session) : SessionMove → Option Session
  | .handle =>
    if session.phase = .top then
      let session := { session with log := .loop :: session.log }.mqttHandleDisconnectPending
      some { session with phase := if session.connected then .online else .offline }
    else none
  | .check iface =>
    match session.phase with
    | .offline =>
      if session.netHasIpv4 && iface then some { session with phase := .resolving }
      else some { session with phase := .sleeping (session.clock + MQTT_NET_WAIT_MS) }
    | .online =>
      if session.netHasIpv4 && iface then
        some { session with phase := .draining MQTT_PUBLISH_BUDGET_PER_LOOP false }
      else
        let session := { session with disconnectPending := true }.mqttHandleDisconnectPending
        some { session with phase := .sleeping (session.clock + MQTT_NET_WAIT_MS) }
    | _ => none
  | .connect ret =>
    if session.phase = .resolving then
      let session := { session with log := .attempt session.clock :: session.log }
      match ret with
      | some _ => some { session with phase := .sleeping (session.clock + build.reconnectIntervalMs) }
      | none => some { session with phase := .awaiting, link := .opened }
    else none
  | .connack accepted =>
    if session.phase = .awaiting ∧ session.link = .opened then
      if accepted then
        some { session with
          phase := .greeting MQTT_PUBLISH_BUDGET_ON_CONNECT
          connected := true
          link := .acknowledged none
          log := .accepted :: session.log }
      else some { session with connected := false }
    else none
  | .lost =>
    if (session.phase = .awaiting ∨ session.phase = .processing) ∧ session.link ≠ .closed then some session.close
    else none
  | .inputDone ret =>
    match session.phase with
    | .awaiting =>
      if session.connected = false then some (session.retry build)
      else some { session with phase := if build.downlinkEnabled then .subscribing else .online }
    | .processing =>
      match ret with
      | some _ => some (session.retry build)
      | none => some { session with phase := .draining MQTT_PUBLISH_BUDGET_PER_LOOP true }
    | _ => none
  | .subscribe t ret =>
    if session.phase = .subscribing then
      if (mqttBuildSubscribeTopic build.toMqttConfig t).length ≥ MQTT_TOPIC_SIZE ∨ ret ≠ none then
        some (session.retry build)
      else
        some { session with
          phase := .online
          link := .acknowledged (some (mqttBuildSubscribeTopic build.toMqttConfig t)) }
    else none
  | .drain answer =>
    match session.phase with
    | .greeting left =>
      match session.drainRound true left answer with
      | some (session, left) => some { session with phase := .greeting left }
      | none => some { session with phase := .awaiting }
    | .draining left second =>
      match session.drainRound false left answer with
      | some (session, left) => some { session with phase := .draining left second }
      | none =>
        if second then some { session with phase := .reporting }
        else if session.connected then some { session with phase := .processing }
        else some (session.retry build)
    | _ => none
  | .report publication =>
    if session.phase = .reporting then
      match publication with
      | none => some { session with phase := .top }
      | some (entry, answer) =>
        if session.connected = false then none
        else
          let session := { session with phase := .top, log := .reported session.link entry :: session.log }
          let session := session.mqttDoPublish answer
          some (if answer = .done then session
            else { session with queue := mqttEnqueue build session.queue entry })
    else none
  | .wake =>
    match session.phase with
    | .sleeping wake => if session.clock < wake then none else some { session with phase := .top }
    | _ => none
  | .net up =>
    some { session with netHasIpv4 := up, disconnectPending := if up then session.disconnectPending else true }
  | .enqueue entry => some { session with queue := mqttEnqueue build session.queue entry }
  | .pass now => if now < session.clock then none else some { session with clock := now }

/-- `meshtastic_mqtt_init`. -/
def initial (netHasIpv4 : Bool) : Session :=
  { phase := .top, connected := false, disconnectPending := false, netHasIpv4 := netHasIpv4, queue := []
    link := .closed, clock := 0, log := [] }

end

end Session

/-! ## The log -/

def pendingAttempt : List SessionEvent → Option Int
  | [] => none
  | .attempt now :: _ => some now
  | .accepted :: _ => none
  | .loop :: older => pendingAttempt older
  | .handed _ _ _ :: older => pendingAttempt older
  | .reported _ _ :: older => pendingAttempt older

def handedInLoop : List SessionEvent → Nat
  | [] => 0
  | .loop :: _ => 0
  | .handed _ _ _ :: older => handedInLoop older + 1
  | .attempt _ :: older => handedInLoop older
  | .accepted :: older => handedInLoop older
  | .reported _ _ :: older => handedInLoop older

def acceptedInLoop : List SessionEvent → Bool
  | [] => false
  | .loop :: _ => false
  | .accepted :: _ => true
  | .handed _ _ _ :: older => acceptedInLoop older
  | .attempt _ :: older => acceptedInLoop older
  | .reported _ _ :: older => acceptedInLoop older

def connectBudget (log : List SessionEvent) : Nat := if acceptedInLoop log then MQTT_PUBLISH_BUDGET_ON_CONNECT else 0

def BrokerLink.Open (link : BrokerLink) : Prop := ∃ filter, link = .acknowledged filter

def BrokerLink.FilterSent (mq : MqttConfig) (link : BrokerLink) : Prop :=
  ∃ t, (mqttBuildSubscribeTopic mq t).length < MQTT_TOPIC_SIZE ∧
    link = .acknowledged (some (mqttBuildSubscribeTopic mq t))

namespace SessionEvent

def May (build : SessionBuild) : SessionEvent → List SessionEvent → Prop
  | attempt now, older => ∀ before ∈ pendingAttempt older, (build.reconnectIntervalMs : Int) ≤ now - before
  | handed greeting link _, older => link.Open ∧
      (greeting = false → build.downlinkEnabled = true → link.FilterSent build.toMqttConfig) ∧
      handedInLoop older < connectBudget older + 2 * MQTT_PUBLISH_BUDGET_PER_LOOP
  | reported link _, _ => link.Open ∧ (build.downlinkEnabled = true → link.FilterSent build.toMqttConfig)
  | loop, _ => True
  | accepted, _ => True

end SessionEvent

def Within (log : List SessionEvent) (budget : Nat) : Prop := handedInLoop log ≤ connectBudget log + budget

def Fresh (log : List SessionEvent) : Prop := handedInLoop log = 0 ∧ acceptedInLoop log = false

section
variable (build : SessionBuild)

def Rested (log : List SessionEvent) (time : Int) : Prop :=
  ∀ before ∈ pendingAttempt log, (build.reconnectIntervalMs : Int) ≤ time - before

def FilterStands (connected : Bool) (link : BrokerLink) : Prop :=
  connected = true → build.downlinkEnabled = true → link.FilterSent build.toMqttConfig

/-- What the thread knows at each place. -/
def Standing (connected : Bool) (link : BrokerLink) (clock : Int) (log : List SessionEvent) : SessionPhase → Prop
  | .top => FilterStands build connected link ∧ Rested build log clock
  | .offline => connected = false ∧ Fresh log ∧ Rested build log clock
  | .resolving => connected = false ∧ Fresh log ∧ Rested build log clock
  | .awaiting => (∀ before ∈ pendingAttempt log, before ≤ clock) ∧ Within log 0 ∧ (link = .opened → Fresh log)
  | .greeting left => (∀ before ∈ pendingAttempt log, before ≤ clock) ∧ acceptedInLoop log = true ∧ link ≠ .opened ∧
      handedInLoop log + left ≤ MQTT_PUBLISH_BUDGET_ON_CONNECT
  | .subscribing => pendingAttempt log = none ∧ Within log 0
  | .online => FilterStands build connected link ∧ pendingAttempt log = none ∧ Within log 0
  | .draining left second => FilterStands build connected link ∧ pendingAttempt log = none ∧
      handedInLoop log + left ≤ connectBudget log + MQTT_PUBLISH_BUDGET_PER_LOOP * (if second then 2 else 1)
  | .processing => FilterStands build connected link ∧ pendingAttempt log = none ∧ Within log MQTT_PUBLISH_BUDGET_PER_LOOP
  | .reporting => FilterStands build connected link ∧ pendingAttempt log = none
  | .sleeping wake => connected = false ∧ Rested build log wake

structure Session.Kept (session : Session) : Prop where
  opened : session.connected = true → session.link.Open
  accepted : session.connected = true → pendingAttempt session.log = none
  standing : Standing build session.connected session.link session.clock session.log session.phase
  lawful : History.Lawful (SessionEvent.May build) session.log

end

section
variable {build : SessionBuild} {log : List SessionEvent} {link : BrokerLink}

theorem passed_of_none (settled : pendingAttempt log = none) (clock : Int) :
    ∀ before ∈ pendingAttempt log, before ≤ clock := by
  intro before pending
  rw [settled] at pending
  cases pending

theorem rested_of_none (settled : pendingAttempt log = none) (time : Int) : Rested build log time := by
  intro before pending
  rw [settled] at pending
  cases pending

theorem Rested.later {time now : Int} (rested : Rested build log time) (later : time ≤ now) : Rested build log now := by
  intro before pending
  have enough := rested before pending
  omega

theorem Rested.of_passed {clock : Int} (passed : ∀ before ∈ pendingAttempt log, before ≤ clock) :
    Rested build log (clock + build.reconnectIntervalMs) := by
  intro before pending
  have past := passed before pending
  omega

theorem FilterStands.offline : FilterStands build false link := fun online => nomatch online

end

namespace Session

section
variable {build : SessionBuild} {session next : Session}

theorem Kept.pass (kept : session.Kept build) {now : Int} (later : session.clock ≤ now) :
    { session with clock := now }.Kept build := by
  have standing := kept.standing
  refine ⟨kept.opened, kept.accepted, ?_, kept.lawful⟩
  cases here : session.phase with
  | top =>
    rw [here] at standing
    exact ⟨standing.1, standing.2.later later⟩
  | offline =>
    rw [here] at standing
    exact ⟨standing.1, standing.2.1, standing.2.2.later later⟩
  | resolving =>
    rw [here] at standing
    exact ⟨standing.1, standing.2.1, standing.2.2.later later⟩
  | awaiting =>
    rw [here] at standing
    exact ⟨fun before pending => Int.le_trans (standing.1 before pending) later, standing.2⟩
  | greeting left =>
    rw [here] at standing
    exact ⟨fun before pending => Int.le_trans (standing.1 before pending) later, standing.2⟩
  | subscribing =>
    rw [here] at standing
    exact standing
  | online =>
    rw [here] at standing
    exact standing
  | draining left second =>
    rw [here] at standing
    exact standing
  | processing =>
    rw [here] at standing
    exact standing
  | reporting =>
    rw [here] at standing
    exact standing
  | sleeping wake =>
    rw [here] at standing
    exact standing

theorem Kept.retry (kept : session.Kept build) (passed : ∀ before ∈ pendingAttempt session.log, before ≤ session.clock) :
    (session.retry build).Kept build :=
  ⟨fun online => (nomatch online), fun online => (nomatch online), ⟨rfl, Rested.of_passed passed⟩, kept.lawful⟩

theorem Kept.handle (kept : session.Kept build) (here : session.phase = .top)
    (taken : session.step build .handle = some next) : next.Kept build := by
  have standing := kept.standing
  rw [here] at standing
  obtain ⟨stands, rested⟩ := standing
  have lawful : History.Lawful (SessionEvent.May build) (.loop :: session.log) := ⟨trivial, kept.lawful⟩
  cases online : session.connected with
  | false =>
    cases quiet : session.disconnectPending with
    | false =>
      simp only [step, if_pos here, mqttHandleDisconnectPending, quiet, online, Bool.false_eq_true, if_true, if_false] at taken
      cases taken
      exact ⟨fun up => (nomatch up), fun up => (nomatch up), ⟨rfl, ⟨rfl, rfl⟩, rested⟩, lawful⟩
    | true =>
      simp only [step, if_pos here, mqttHandleDisconnectPending, quiet, online, Bool.false_eq_true, Bool.true_eq_false,
        if_true, if_false] at taken
      cases taken
      exact ⟨fun up => (nomatch up), fun up => (nomatch up), ⟨rfl, ⟨rfl, rfl⟩, rested⟩, lawful⟩
  | true =>
    cases quiet : session.disconnectPending with
    | false =>
      simp only [step, if_pos here, mqttHandleDisconnectPending, quiet, online, if_true] at taken
      cases taken
      rw [online] at stands
      exact ⟨fun _ => kept.opened online, fun _ => kept.accepted online,
        ⟨stands, kept.accepted online, Nat.zero_le _⟩, lawful⟩
    | true =>
      simp only [step, if_pos here, mqttHandleDisconnectPending, quiet, online, close, Bool.false_eq_true,
        Bool.true_eq_false, if_false] at taken
      cases taken
      exact ⟨fun up => (nomatch up), fun up => (nomatch up), ⟨rfl, ⟨rfl, rfl⟩, rested⟩, lawful⟩

theorem Kept.check (kept : session.Kept build) {iface : Bool} (taken : session.step build (.check iface) = some next) :
    next.Kept build := by
  have standing := kept.standing
  simp only [step] at taken
  split at taken
  · rename_i here
    rw [here] at standing
    obtain ⟨offline, fresh, rested⟩ := standing
    split_ifs at taken
    · cases taken
      exact ⟨kept.opened, kept.accepted, ⟨offline, fresh, rested⟩, kept.lawful⟩
    · cases taken
      refine ⟨kept.opened, kept.accepted, ⟨offline, rested.later ?_⟩, kept.lawful⟩
      exact Int.le_add_of_nonneg_right (by decide)
  · rename_i here
    rw [here] at standing
    obtain ⟨stands, settled, within⟩ := standing
    split_ifs at taken
    · cases taken
      exact ⟨kept.opened, kept.accepted, ⟨stands, settled, Nat.add_le_add_right within _⟩, kept.lawful⟩
    · simp only [mqttHandleDisconnectPending, Bool.true_eq_false, if_false] at taken
      split_ifs at taken with offline
      · cases taken
        exact ⟨kept.opened, kept.accepted, ⟨offline, rested_of_none settled _⟩, kept.lawful⟩
      · cases taken
        exact ⟨fun online => (nomatch online), fun online => (nomatch online), ⟨rfl, rested_of_none settled _⟩, kept.lawful⟩
  · cases taken

theorem Kept.connect (kept : session.Kept build) {ret : Option Errno}
    (taken : session.step build (.connect ret) = some next) : next.Kept build := by
  have standing := kept.standing
  simp only [step] at taken
  split_ifs at taken with here
  rw [here] at standing
  obtain ⟨offline, fresh, rested⟩ := standing
  have lawful : History.Lawful (SessionEvent.May build) (.attempt session.clock :: session.log) := ⟨rested, kept.lawful⟩
  have passed : ∀ before ∈ pendingAttempt (.attempt session.clock :: session.log), before ≤ session.clock := by
    intro before pending
    cases pending
    exact Int.le_refl session.clock
  cases ret with
  | some err =>
    cases taken
    refine ⟨kept.opened, ?_, ⟨offline, Rested.of_passed passed⟩, lawful⟩
    intro online
    rw [offline] at online
    cases online
  | none =>
    cases taken
    refine ⟨?_, ?_, ⟨passed, Nat.le_of_eq fresh.1 |>.trans (Nat.zero_le _), fun _ => fresh⟩, lawful⟩
    · intro online
      rw [offline] at online
      cases online
    · intro online
      rw [offline] at online
      cases online

theorem Kept.connack (kept : session.Kept build) {accepted : Bool}
    (taken : session.step build (.connack accepted) = some next) : next.Kept build := by
  have standing := kept.standing
  simp only [step] at taken
  split_ifs at taken with here welcome
  · rw [here.1] at standing
    obtain ⟨passed, within, fresh⟩ := standing
    cases taken
    refine ⟨fun _ => ⟨none, rfl⟩, fun _ => rfl, ⟨?_, rfl, ?_, ?_⟩, ⟨trivial, kept.lawful⟩⟩
    · intro before pending
      cases pending
    · intro opened
      cases opened
    · have nothing := (fresh here.2).1
      change handedInLoop session.log + MQTT_PUBLISH_BUDGET_ON_CONNECT ≤ MQTT_PUBLISH_BUDGET_ON_CONNECT
      omega
  · cases taken
    rw [here.1] at standing
    refine ⟨fun online => (nomatch online), fun online => (nomatch online), ?_, kept.lawful⟩
    rw [here.1]
    exact standing

theorem Kept.lost (kept : session.Kept build) (taken : session.step build .lost = some next) : next.Kept build := by
  have standing := kept.standing
  simp only [step] at taken
  split_ifs at taken with here
  cases taken
  refine ⟨fun online => (nomatch online), fun online => (nomatch online), ?_, kept.lawful⟩
  change Standing build false .closed session.clock session.log session.phase
  rcases here.1 with awaiting | processing
  · rw [awaiting] at standing ⊢
    exact ⟨standing.1, standing.2.1, fun opened => nomatch opened⟩
  · rw [processing] at standing ⊢
    exact ⟨FilterStands.offline, standing.2⟩

theorem Kept.inputDone (kept : session.Kept build) {ret : Option Errno}
    (taken : session.step build (.inputDone ret) = some next) : next.Kept build := by
  have standing := kept.standing
  simp only [step] at taken
  split at taken
  · rename_i here
    rw [here] at standing
    obtain ⟨passed, within, fresh⟩ := standing
    split_ifs at taken with offline downlink
    · cases taken
      exact kept.retry passed
    · have settled := kept.accepted (Bool.eq_true_of_not_eq_false offline)
      cases taken
      exact ⟨kept.opened, kept.accepted, ⟨settled, within⟩, kept.lawful⟩
    · have settled := kept.accepted (Bool.eq_true_of_not_eq_false offline)
      cases taken
      exact ⟨kept.opened, kept.accepted, ⟨fun _ wanted => absurd wanted downlink, settled, within⟩, kept.lawful⟩
  · rename_i here
    rw [here] at standing
    obtain ⟨stands, settled, within⟩ := standing
    cases ret with
    | some err =>
      cases taken
      exact kept.retry (passed_of_none settled _)
    | none =>
      cases taken
      refine ⟨kept.opened, kept.accepted, ⟨stands, settled, ?_⟩, kept.lawful⟩
      have budget : MQTT_PUBLISH_BUDGET_PER_LOOP * 2 = MQTT_PUBLISH_BUDGET_PER_LOOP + MQTT_PUBLISH_BUDGET_PER_LOOP := rfl
      unfold Within at within
      simp only [if_true]
      omega
  · cases taken

theorem Kept.subscribe (kept : session.Kept build) {t : ChannelTable} {ret : Option Errno}
    (taken : session.step build (.subscribe t ret) = some next) : next.Kept build := by
  have standing := kept.standing
  simp only [step] at taken
  split_ifs at taken with here refused
  · rw [here] at standing
    cases taken
    exact kept.retry (passed_of_none standing.1 _)
  · rw [here] at standing
    rw [not_or, not_le] at refused
    cases taken
    exact ⟨fun _ => ⟨_, rfl⟩, kept.accepted, ⟨fun _ _ => ⟨t, refused.1, rfl⟩, standing.1, standing.2⟩, kept.lawful⟩

theorem Kept.publish (kept : session.Kept build) (online : session.connected = true) {event : SessionEvent}
    (may : event.May build session.log) (quiet : pendingAttempt (event :: session.log) = pendingAttempt session.log)
    {queue : List MqttPubEntry} {phase : SessionPhase} (answer : PublishAnswer)
    (standing : ∀ connected link, connected = true ∧ link = session.link ∨ connected = false ∧ link = .closed →
      Standing build connected link session.clock (event :: session.log) phase) :
    { { session with queue := queue, log := event :: session.log }.mqttDoPublish answer with phase := phase }.Kept build := by
  have still : { session with phase := phase, queue := queue, log := event :: session.log }.Kept build := by
    refine ⟨kept.opened, fun up => quiet.trans (kept.accepted up), ?_, ⟨may, kept.lawful⟩⟩
    exact standing session.connected session.link (Or.inl ⟨online, rfl⟩)
  cases answer with
  | done => exact still
  | failed => exact still
  | lost =>
    exact ⟨fun up => (nomatch up), fun up => (nomatch up), standing false .closed (Or.inr ⟨rfl, rfl⟩), ⟨may, kept.lawful⟩⟩

theorem drainRound_cases (session : Session) (greeting : Bool) (left : Nat) (answer : PublishAnswer) :
    session.drainRound greeting left answer = none ∨
      ∃ entry rest fewer, left = fewer + 1 ∧ session.connected = true ∧
        session.drainRound greeting left answer =
          some ({ session with queue := rest, log := .handed greeting session.link entry :: session.log }.mqttDoPublish answer,
            fewer) := by
  unfold drainRound
  split
  · rename_i entry rest fewer waiting
    split_ifs with offline
    · exact Or.inl rfl
    · exact Or.inr ⟨entry, rest, fewer, rfl, Bool.eq_true_of_not_eq_false offline, rfl⟩
  · exact Or.inl rfl

theorem FilterStands.lower {connected : Bool} {link : BrokerLink}
    (stands : Meshtastic.FilterStands build session.connected session.link)
    (lower : connected = true ∧ link = session.link ∨ connected = false ∧ link = .closed)
    (online : session.connected = true) : Meshtastic.FilterStands build connected link := by
  rcases lower with ⟨up, same⟩ | ⟨down, -⟩
  · rw [up, same, ← online]
    exact stands
  · rw [down]
    exact FilterStands.offline

theorem Kept.drain (kept : session.Kept build) {answer : PublishAnswer}
    (taken : session.step build (.drain answer) = some next) : next.Kept build := by
  have standing := kept.standing
  have loopBudget : MQTT_PUBLISH_BUDGET_PER_LOOP = 2 := rfl
  simp only [step] at taken
  split at taken
  · rename_i left here
    rw [here] at standing
    obtain ⟨passed, welcome, notOpened, few⟩ := standing
    have budget : connectBudget session.log = MQTT_PUBLISH_BUDGET_ON_CONNECT := if_pos welcome
    rcases session.drainRound_cases true left answer with done | ⟨entry, rest, fewer, same, online, handed⟩
    · rw [done] at taken
      cases taken
      refine ⟨kept.opened, kept.accepted, ⟨passed, ?_, fun opened => absurd opened notOpened⟩, kept.lawful⟩
      change handedInLoop session.log ≤ connectBudget session.log + 0
      omega
    · rw [handed] at taken
      cases taken
      apply kept.publish online
      · exact ⟨kept.opened online, fun loop => (nomatch loop), by omega⟩
      · rfl
      · intro connected link lower
        refine ⟨passed, welcome, ?_, ?_⟩
        · rcases lower with ⟨-, kept⟩ | ⟨-, closed⟩
          · rw [kept]
            exact notOpened
          · rw [closed]
            exact fun opened => nomatch opened
        · change handedInLoop session.log + 1 + fewer ≤ MQTT_PUBLISH_BUDGET_ON_CONNECT
          omega
  · rename_i left second here
    rw [here] at standing
    obtain ⟨stands, settled, few⟩ := standing
    have least : (if second then 2 else 1) ≤ 2 := by
      cases second with
      | false => decide
      | true => decide
    have product : MQTT_PUBLISH_BUDGET_PER_LOOP * (if second then 2 else 1) ≤ 2 * MQTT_PUBLISH_BUDGET_PER_LOOP := by
      rw [Nat.mul_comm]
      exact Nat.mul_le_mul_right _ least
    rcases session.drainRound_cases false left answer with done | ⟨entry, rest, fewer, same, online, handed⟩
    · rw [done] at taken
      simp only at taken
      split_ifs at taken with last online
      · cases taken
        exact ⟨kept.opened, kept.accepted, ⟨stands, settled⟩, kept.lawful⟩
      · cases taken
        refine ⟨kept.opened, kept.accepted, ⟨stands, settled, ?_⟩, kept.lawful⟩
        rw [if_neg last] at few
        change handedInLoop session.log ≤ connectBudget session.log + MQTT_PUBLISH_BUDGET_PER_LOOP
        omega
      · cases taken
        exact kept.retry (passed_of_none settled _)
    · rw [handed] at taken
      cases taken
      apply kept.publish online
      · refine ⟨kept.opened online, fun _ wanted => stands online wanted, ?_⟩
        omega
      · rfl
      · intro connected link lower
        refine ⟨FilterStands.lower stands lower online, settled, ?_⟩
        change handedInLoop session.log + 1 + fewer ≤ connectBudget session.log + _
        omega
  · cases taken

theorem Kept.report (kept : session.Kept build) {publication : Option (MqttPubEntry × PublishAnswer)}
    (taken : session.step build (.report publication) = some next) : next.Kept build := by
  have standing := kept.standing
  by_cases here : session.phase = .reporting
  case neg =>
    simp only [step, if_neg here] at taken
    cases taken
  rw [here] at standing
  obtain ⟨stands, settled⟩ := standing
  simp only [step, if_pos here] at taken
  cases publication with
  | none =>
    cases taken
    exact ⟨kept.opened, kept.accepted, ⟨stands, rested_of_none settled _⟩, kept.lawful⟩
  | some published =>
    obtain ⟨entry, answer⟩ := published
    by_cases offline : session.connected = false
    case pos =>
      simp only [if_pos offline] at taken
      cases taken
    simp only [if_neg offline] at taken
    have online := Bool.eq_true_of_not_eq_false offline
    have may : (SessionEvent.reported session.link entry).May build session.log :=
      ⟨kept.opened online, fun wanted => stands online wanted⟩
    have after : ∀ queue, { { session with queue := queue, log := .reported session.link entry :: session.log }.mqttDoPublish
        answer with phase := .top }.Kept build := by
      intro queue
      apply kept.publish online may
      · rfl
      · intro connected link lower
        exact ⟨FilterStands.lower stands lower online, rested_of_none settled _⟩
    cases answer with
    | done =>
      cases taken
      exact after session.queue
    | failed =>
      cases taken
      exact after _
    | lost =>
      cases taken
      exact after _

theorem Kept.step (session : Session) (move : SessionMove) (next : Session) (kept : session.Kept build) (_ : True)
    (taken : session.step build move = some next) : next.Kept build := by
  cases move with
  | handle =>
    by_cases here : session.phase = .top
    · exact kept.handle here taken
    · simp only [Session.step, if_neg here] at taken
      cases taken
  | check iface => exact kept.check taken
  | connect ret => exact kept.connect taken
  | connack accepted => exact kept.connack taken
  | lost => exact kept.lost taken
  | inputDone ret => exact kept.inputDone taken
  | subscribe t ret => exact kept.subscribe taken
  | drain answer => exact kept.drain taken
  | report publication => exact kept.report taken
  | wake =>
    have standing := kept.standing
    simp only [Session.step] at taken
    split at taken
    · rename_i wake here
      rw [here] at standing
      split_ifs at taken with early
      cases taken
      refine ⟨kept.opened, kept.accepted, ⟨?_, standing.2.later (not_lt.mp early)⟩, kept.lawful⟩
      rw [standing.1]
      exact FilterStands.offline
    · cases taken
  | net up =>
    cases taken
    exact ⟨kept.opened, kept.accepted, kept.standing, kept.lawful⟩
  | enqueue entry =>
    cases taken
    exact ⟨kept.opened, kept.accepted, kept.standing, kept.lawful⟩
  | pass now =>
    simp only [Session.step] at taken
    split_ifs at taken with early
    cases taken
    exact kept.pass (not_lt.mp early)

theorem initial_kept (build : SessionBuild) (netHasIpv4 : Bool) : (initial netHasIpv4).Kept build :=
  ⟨fun online => (nomatch online), fun online => (nomatch online), ⟨FilterStands.offline, rested_of_none rfl _⟩, trivial⟩

theorem kept_run {netHasIpv4 : Bool} {moves : List SessionMove} {last : Session}
    (run : Transition.run (step build) (initial netHasIpv4) moves = some last) : last.Kept build :=
  Transition.run_invariant Kept.step (initial_kept build netHasIpv4) (Transition.guarded_true _ moves) run

end

end Session

/-! ## Filters and topics -/

section
variable (mq : MqttConfig)

theorem hexDigit_ne_slash (digit : Nat) (small : digit < 16) : hexDigit digit ≠ 0x2f := by
  have all : ∀ digit : Fin 16, hexDigit digit.val ≠ 0x2f := by decide
  exact all ⟨digit, small⟩

theorem mqttNodeIdStr_level (nodeId : UInt32) :
    (mqttNodeIdStr nodeId).bytes.splitOn mqttMarks.separator = [(mqttNodeIdStr nodeId).bytes] := by
  apply List.splitOn_eq_singleton
  intro present
  rcases List.mem_cons.mp present with first | later
  · contradiction
  · obtain ⟨shift, -, slash⟩ := List.mem_map.mp later
    exact hexDigit_ne_slash _ (Nat.mod_lt _ (by decide)) slash

def topicFront (name : Octets) : List Octets :=
  (mq.root.truncate (MQTT_PREFIX_SIZE - 1)).bytes.splitOn mqttMarks.separator ++ ([[0x32], [0x65]] ++
    name.splitOn mqttMarks.separator)

theorem splitOn_topic (name last : Octets) :
    ((mq.root.truncate (MQTT_PREFIX_SIZE - 1)).bytes ++ CRYPT_TOPIC_SUFFIX ++ name ++ [0x2f] ++ last).splitOn
      mqttMarks.separator = topicFront mq name ++ last.splitOn mqttMarks.separator := by
  have parts : (mq.root.truncate (MQTT_PREFIX_SIZE - 1)).bytes ++ CRYPT_TOPIC_SUFFIX ++ name ++ [0x2f] ++ last =
      (mq.root.truncate (MQTT_PREFIX_SIZE - 1)).bytes ++ mqttMarks.separator ::
        ([0x32] ++ mqttMarks.separator :: ([0x65] ++ mqttMarks.separator :: (name ++ mqttMarks.separator :: last))) := by
    simp only [CRYPT_TOPIC_SUFFIX, mqttMarks, List.append_assoc, List.cons_append, List.nil_append]
  have two : ([0x32] : Octets).splitOn mqttMarks.separator = [[0x32]] := by decide
  have e : ([0x65] : Octets).splitOn mqttMarks.separator = [[0x65]] := by decide
  rw [parts, List.splitOn_append_cons_self, List.splitOn_append_cons_self, List.splitOn_append_cons_self,
    List.splitOn_append_cons_self, two, e, topicFront]
  simp only [List.append_assoc, List.cons_append, List.nil_append]

theorem PlainTopic.front {mq : MqttConfig} {t : ChannelTable} (plain : PlainTopic mq t) :
    Literal mqttMarks (topicFront mq (runtimeChannelName t).bytes) := by
  have middle : Literal mqttMarks [[0x32], [0x65]] := by decide
  intro level member
  rcases List.mem_append.mp member with root | behind
  · exact plain.root level root
  · rcases List.mem_append.mp behind with fixed | name
    · exact middle level fixed
    · exact plain.name level name

theorem topicFront_append_inj {name other last first : Octets}
    (same : topicFront mq name ++ [last] = topicFront mq other ++ [first]) : name = other := by
  have fronts := (List.append_inj' same rfl).1
  have names := List.append_cancel_left (List.append_cancel_left fronts)
  exact splitOn_injective mqttMarks.separator names

end

/-! ## Values for examples -/

def plainSession : SessionBuild := { plainMqtt with reconnectIntervalMs := 5000, reconnectIntervalMs_range := by decide }

def waitingEntry : MqttPubEntry := ⟨mqttBuildPublishTopic plainMqtt gatewayTable 0x11223344, [1, 2, 3]⟩

/-- The first attempt fails, the second one is accepted, and an entry that was waiting is handed over at once; one that
comes later goes out in the loop, after the subscription. -/
def sessionMoves : List SessionMove :=
  [.net true, .enqueue waitingEntry, .handle, .check true, .connect (some .etimedout), .pass 5000, .wake, .handle,
    .check true, .connect none, .connack true, .drain .done, .drain .done, .inputDone none, .subscribe gatewayTable none,
    .enqueue waitingEntry, .check true, .drain .done]

/-! ## Results -/

/-- The filter of a gateway takes the publications of the gateways under the same root whose primary channels have the
same name, and no others of theirs; the name they carry passes the check of the enabled primary channel. -/
theorem subscription_matches_namesakes (mq : MqttConfig) (own : ChannelTable) (plain : PlainTopic mq own)
    (t : ChannelTable) (nodeId : UInt32) :
    (Matches mqttMarks (mqttBuildSubscribeTopic mq own) (mqttBuildPublishTopic mq t nodeId) = true ↔
      runtimeChannelName t = runtimeChannelName own) ∧
    (Matches mqttMarks (mqttBuildSubscribeTopic mq own) (mqttBuildPublishTopic mq t nodeId) = true →
      (own.channelSlots own.primaryIndex).role ≠ .disabled →
        channelsMatchesMqttName own (runtimeChannelName t) = true) := by
  have one : ([0x2b] : Octets).splitOn mqttMarks.separator = [[mqttMarks.one]] := by decide
  have pattern : (mqttBuildSubscribeTopic mq own).splitOn mqttMarks.separator =
      topicFront mq (runtimeChannelName own).bytes ++ [[mqttMarks.one]] := by
    rw [← one, ← splitOn_topic, List.append_assoc _ [0x2f]]
    rfl
  have topic : (mqttBuildPublishTopic mq t nodeId).splitOn mqttMarks.separator =
      topicFront mq (runtimeChannelName t).bytes ++ [(mqttNodeIdStr nodeId).bytes] := by
    rw [← mqttNodeIdStr_level, ← splitOn_topic]
    rfl
  have namesakes : Matches mqttMarks (mqttBuildSubscribeTopic mq own) (mqttBuildPublishTopic mq t nodeId) = true ↔
      runtimeChannelName t = runtimeChannelName own := by
    rw [Matches, pattern, topic, matchLevels_literal plain.front]
    constructor
    · intro found
      obtain ⟨others, whole, matched⟩ := found
      obtain ⟨level, single⟩ := (matchLevels_one (by decide)).mp matched
      rw [single] at whole
      exact CString.eq_of_bytes (topicFront_append_inj mq whole)
    · intro same
      rw [same]
      exact ⟨_, rfl, (matchLevels_one (by decide)).mpr ⟨_, rfl⟩⟩
  refine ⟨namesakes, ?_⟩
  intro matched enabled
  rw [channelsMatchesMqttName, List.any_eq_true]
  refine ⟨own.primaryIndex, List.mem_finRange _, ?_⟩
  rw [namesakes.mp matched, Bool.and_eq_true, decide_eq_true_eq, decide_eq_true_eq]
  exact ⟨enabled, rfl⟩

theorem subscription_matches_namesakes_plain :
    Matches mqttMarks (mqttBuildSubscribeTopic plainMqtt gatewayTable)
      (mqttBuildPublishTopic plainMqtt gatewayTable 0xdeadbeef) = true :=
  (subscription_matches_namesakes plainMqtt gatewayTable (by decide) gatewayTable 0xdeadbeef).1.mpr rfl

/-- In every run, whatever the thread hands to `mqtt_publish` goes into a connection that the broker has accepted, and
outside the handler of the acknowledgement into one on which the subscription was sent, where the build has downlinks. -/
theorem mqtt_publishes_in_session (build : SessionBuild) (netHasIpv4 : Bool) (moves : List SessionMove) {last : Session}
    (run : Transition.run (Session.step build) (Session.initial netHasIpv4) moves = some last) :
    (∀ newer older greeting link entry, last.log = newer ++ .handed greeting link entry :: older →
      link.Open ∧ (greeting = false → build.downlinkEnabled = true → link.FilterSent build.toMqttConfig)) ∧
    ∀ newer older link entry, last.log = newer ++ .reported link entry :: older →
      link.Open ∧ (build.downlinkEnabled = true → link.FilterSent build.toMqttConfig) := by
  have lawful := (Session.kept_run run).lawful
  constructor
  · intro newer older greeting link entry logged
    rw [logged] at lawful
    have may := History.lawful_at lawful
    exact ⟨may.1, may.2.1⟩
  · intro newer older link entry logged
    rw [logged] at lawful
    exact History.lawful_at lawful

theorem mqtt_publishes_in_session_secondAttempt :
    ∃ last, Transition.run (Session.step plainSession) (Session.initial false) sessionMoves = some last ∧
      ∀ newer older greeting link entry, last.log = newer ++ .handed greeting link entry :: older →
        link.Open ∧ (greeting = false → plainSession.downlinkEnabled = true → link.FilterSent plainSession.toMqttConfig) :=
  ⟨_, rfl, (mqtt_publishes_in_session plainSession false sessionMoves rfl).1⟩

/-- In every run, a round of the loop hands over at most four entries of the queue, and at most eight more when it
connects. -/
theorem mqtt_publishes_within_budget (build : SessionBuild) (netHasIpv4 : Bool) (moves : List SessionMove)
    {last : Session} (run : Transition.run (Session.step build) (Session.initial netHasIpv4) moves = some last) :
    ∀ newer older greeting link entry, last.log = newer ++ .handed greeting link entry :: older →
      handedInLoop (.handed greeting link entry :: older) ≤ (if acceptedInLoop older then 8 else 0) + 4 := by
  intro newer older greeting link entry logged
  have lawful := (Session.kept_run run).lawful
  rw [logged] at lawful
  have may := History.lawful_at lawful
  have budget : connectBudget older + 2 * MQTT_PUBLISH_BUDGET_PER_LOOP = (if acceptedInLoop older then 8 else 0) + 4 := rfl
  have few := may.2.2
  rw [budget] at few
  exact few

theorem mqtt_publishes_within_budget_secondAttempt :
    ∃ last, Transition.run (Session.step plainSession) (Session.initial false) sessionMoves = some last ∧
      ∀ newer older greeting link entry, last.log = newer ++ .handed greeting link entry :: older →
        handedInLoop (.handed greeting link entry :: older) ≤ (if acceptedInLoop older then 8 else 0) + 4 :=
  ⟨_, rfl, mqtt_publishes_within_budget plainSession false sessionMoves rfl⟩

/-- In every run, an attempt to connect after one that the broker has not accepted comes no earlier than the reconnect
interval, however the network comes and goes. -/
theorem mqtt_attempts_paced (build : SessionBuild) (netHasIpv4 : Bool) (moves : List SessionMove) {last : Session}
    (run : Transition.run (Session.step build) (Session.initial netHasIpv4) moves = some last) :
    ∀ newer older now, last.log = newer ++ .attempt now :: older →
      ∀ before, pendingAttempt older = some before → (build.reconnectIntervalMs : Int) ≤ now - before := by
  intro newer older now logged
  have lawful := (Session.kept_run run).lawful
  rw [logged] at lawful
  exact History.lawful_at lawful

theorem mqtt_attempts_paced_secondAttempt :
    ∃ last, Transition.run (Session.step plainSession) (Session.initial false) sessionMoves = some last ∧
      ∀ newer older now, last.log = newer ++ .attempt now :: older →
        ∀ before, pendingAttempt older = some before → (plainSession.reconnectIntervalMs : Int) ≤ now - before :=
  ⟨_, rfl, mqtt_attempts_paced plainSession false sessionMoves rfl⟩

end Meshtastic
