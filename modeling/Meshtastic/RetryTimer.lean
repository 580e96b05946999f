import Meshtastic.DataCodec
import Meshtastic.Lib.Run
import Meshtastic.Lib.Scan
import Meshtastic.Reliable

/-! The retry timer of `meshtastic_reliable.c`. One delayable work item serves the whole table:
`reliable_reschedule` moves its deadline to the earliest due time, and to the present when that has passed. -/

namespace Meshtastic
open Bytes

/-- The table, the deadline of `reliable_work` if it is scheduled, and the time of the last call. The time of the
last `k_work_reschedule`, `armedAt`, is kept for the proofs only. -/
structure RetryTimer (cfg : Kconfig) where
  entries : ReliableTable cfg
  deadline : Option Int
  now : Int
  armedAt : Int

def RetryTimer.atBoot (cfg : Kconfig) (now : Int) : RetryTimer cfg :=
  { entries := reliableReset cfg, deadline := none, now := now, armedAt := now }

/-- The calls, without their times. The work item may be scheduled once more between the end of its timeout and
the run of its handler, which leaves that schedule alone. -/
inductive TimerCall (cfg : Kconfig) where
  | track (packet : Packet) (wire : Octets) (rand : UInt32)
  | routing (packet : Packet)
  | work (rand : ReliableSlot cfg → UInt32) (scheduledAgain : Bool)

section
variable {cfg : Kconfig}

/-- The earliest due time of the pending entries; `INT64_MAX` stands for none. -/
def nextDue (entries : ReliableTable cfg) : Int :=
  Scan.leastKey (fun i => (entries i).dueMs) (fun i => (entries i).id ≠ 0) INT64_MAX
    (List.finRange cfg.reliableMaxPending)

/-- `reliable_reschedule`. -/
def RetryTimer.reschedule (st : RetryTimer cfg) (now : Int) : RetryTimer cfg :=
  let next := nextDue st.entries
  if next = INT64_MAX then st
  else { st with deadline := some (now + max (next - now) 0), armedAt := now }

/-- A packet that is not taken into the table and a routing message leave the timer alone. -/
def RetryTimer.call (codec : Codec) (nodeId : UInt32) (st : RetryTimer cfg) (now : Int) :
    TimerCall cfg → RetryTimer cfg
  | .track packet wire rand =>
    match reliableTrackSlot nodeId st.entries packet wire with
    | none => st
    | some _ =>
      RetryTimer.reschedule { st with entries := reliableTrack nodeId st.entries packet wire now rand } now
  | .routing packet => { st with entries := (reliableOnRouting codec nodeId st.entries packet).1 }
  | .work rand scheduledAgain =>
    RetryTimer.reschedule
      { st with
        entries := (reliableWorkFn st.entries now rand).1
        deadline := if scheduledAgain then st.deadline else none } now

def RetryTimer.step (codec : Codec) (nodeId : UInt32) (st : RetryTimer cfg) (label : Int × TimerCall cfg) :
    Option (RetryTimer cfg) :=
  if label.1 < st.now then none else some { st.call codec nodeId label.1 label.2 with now := label.1 }

/-! ## The deadline -/

/-- The timer is set for every pending entry: for its due time, or for the last time it was armed when the entry
was overdue by then. -/
def RetryTimer.Scheduled (st : RetryTimer cfg) : Prop :=
  ∀ i, (st.entries i).id ≠ 0 → (st.entries i).dueMs < INT64_MAX →
    ∃ deadline, st.deadline = some deadline ∧ deadline ≤ max (st.entries i).dueMs st.armedAt

structure RetryTimer.Armed (st : RetryTimer cfg) : Prop where
  scheduled : st.Scheduled
  past : st.armedAt ≤ st.now

theorem nextDue_le (entries : ReliableTable cfg) {i : ReliableSlot cfg} (pending : (entries i).id ≠ 0) :
    nextDue entries ≤ (entries i).dueMs :=
  (Scan.leastKey_le _ _ _ _).2 i (List.mem_finRange i) pending

theorem RetryTimer.reschedule_entries (st : RetryTimer cfg) (now : Int) : (st.reschedule now).entries = st.entries := by
  unfold reschedule
  simp only
  split_ifs
  · rfl
  · rfl

theorem RetryTimer.reschedule_scheduled (st : RetryTimer cfg) (now : Int) : (st.reschedule now).Scheduled := by
  intro i pending sane
  rw [reschedule_entries] at pending sane ⊢
  have early := nextDue_le st.entries pending
  have found : nextDue st.entries ≠ INT64_MAX := by omega
  simp only [reschedule, if_neg found]
  refine ⟨_, rfl, ?_⟩
  omega

theorem RetryTimer.reschedule_past {st : RetryTimer cfg} {now : Int} (past : st.armedAt ≤ now) :
    (st.reschedule now).armedAt ≤ now := by
  unfold reschedule
  simp only
  split_ifs
  · exact past
  · exact le_refl _

theorem RetryTimer.call_scheduled (codec : Codec) (nodeId : UInt32) {st : RetryTimer cfg} (before : st.Scheduled)
    (now : Int) (made : TimerCall cfg) : (st.call codec nodeId now made).Scheduled := by
  cases made with
  | track packet wire rand =>
    simp only [call]
    cases found : reliableTrackSlot nodeId st.entries packet wire with
    | none => exact before
    | some i => exact reschedule_scheduled _ now
  | routing packet =>
    intro j pending sane
    simp only [call, reliableOnRouting] at pending sane ⊢
    cases found : reliableRoutingSlot nodeId st.entries packet with
    | none =>
      simp only [found] at pending sane ⊢
      exact before j pending sane
    | some i =>
      simp only [found] at pending sane ⊢
      obtain ⟨-, same⟩ := reliableRelease_pending pending
      rw [same] at pending sane ⊢
      exact before j pending sane
  | work rand scheduledAgain => exact reschedule_scheduled _ now

theorem RetryTimer.call_past (codec : Codec) (nodeId : UInt32) {st : RetryTimer cfg} {now : Int}
    (past : st.armedAt ≤ now) (made : TimerCall cfg) : (st.call codec nodeId now made).armedAt ≤ now := by
  cases made with
  | track packet wire rand =>
    simp only [call]
    cases found : reliableTrackSlot nodeId st.entries packet wire with
    | none => exact past
    | some i => exact reschedule_past past
  | routing packet => exact past
  | work rand scheduledAgain => exact reschedule_past past

end

/-- In any run from an empty table, in every state: as long as an entry is pending, the work item is scheduled, no
later than the entry is due, or at once when it was overdue as the timer was armed. -/
theorem retry_timer_armed (cfg : Kconfig) (codec : Codec) (nodeId : UInt32) (boot : Int)
    (labels : List (Int × TimerCall cfg)) :
    Transition.Always (RetryTimer.step codec nodeId) RetryTimer.Armed (RetryTimer.atBoot cfg boot) labels := by
  apply Transition.always_of_invariant _ (fun _ armed => armed) _ (Transition.guarded_true _ labels)
  · intro st label next armed _ taken
    unfold RetryTimer.step at taken
    split_ifs at taken with backwards
    cases taken
    have later : st.now ≤ label.1 := not_lt.mp backwards
    exact ⟨RetryTimer.call_scheduled codec nodeId armed.scheduled label.1 label.2,
      RetryTimer.call_past codec nodeId (le_trans armed.past later) label.2⟩
  · refine ⟨?_, le_refl _⟩
    intro i pending
    exact absurd rfl pending

/-- The work item is scheduled no later than any pending entry is due. -/
def RetryTimer.NotLate {cfg : Kconfig} (st : RetryTimer cfg) : Prop :=
  ∀ i, (st.entries i).id ≠ 0 → ∃ deadline, st.deadline = some deadline ∧ deadline ≤ (st.entries i).dueMs

/-- A packet is due at 1000. Before the handler runs, another one is tracked at 1001, which sets the timer
to 1001. -/
theorem retry_timer_late :
    ∃ st, Transition.run (RetryTimer.step (dataCodec fun _ _ _ => 0) 0x11) (RetryTimer.atBoot smallKconfig 0)
        [(0, .track greeting [1] 0), (1001, .track { greeting with id := 8 } [2] 0)] = some st ∧
      (st.entries ⟨0, by decide⟩).id = 7 ∧ (st.entries ⟨0, by decide⟩).dueMs = 1000 ∧
      st.deadline = some 1001 ∧ ¬st.NotLate := by
  refine ⟨_, rfl, by decide, by decide, by decide, ?_⟩
  intro notLate
  obtain ⟨deadline, scheduled, early⟩ := notLate ⟨0, by decide⟩ (by decide)
  cases scheduled
  exact absurd early (by decide)

end Meshtastic
