import Meshtastic.DataCodec
import Meshtastic.Lib.History
import Meshtastic.Lib.Run
import Meshtastic.Reliable

/-! Runs of the acknowledgement tracker: any interleaving of the operations on the table with
the reports that follow once the lock is dropped. Every stored entry gets a tag of its own, so
that the history can speak about one entry although slots and ids are reused. -/

namespace Meshtastic
open Bytes

inductive TrackerEvent where
  | tracked (tag : Nat) (entry : ReliableEntry)
  | routed (packet : Packet)
  | retransmitted (tag : Nat) (id : UInt32) (wire : Octets) (now due nextDue : Int) (queued : Bool)
  | released (tag : Nat) (report : ReliableReport)
  | reported (tag : Nat) (report : ReliableReport)
  deriving DecidableEq

/-- The table, the tag of each slot's entry, the outcomes captured but not yet reported, and the
history, newest event first. -/
structure Tracker (cfg : Kconfig) where
  entries : ReliableTable cfg
  owner : ReliableSlot cfg → Nat
  nextTag : Nat
  outbox : List (Nat × ReliableReport)
  history : List TrackerEvent

def Tracker.empty (cfg : Kconfig) : Tracker cfg :=
  { entries := reliableReset cfg, owner := fun _ => 0, nextTag := 0, outbox := [], history := [] }

/-- `track` is the end of a send that returned 0, `routing` and `work` are the locked parts of
`meshtastic_reliable_on_routing` and `reliable_work_fn`, `report` emits one captured outcome. -/
inductive TrackerLabel (cfg : Kconfig) where
  | track (packet : Packet) (wire : Octets) (now : Int) (rand : UInt32)
  | routing (packet : Packet)
  | work (now : Int) (rand : ReliableSlot cfg → UInt32) (queued : ReliableSlot cfg → Bool)
  | report (position : Nat)

section
variable {cfg : Kconfig} (codec : Codec) (nodeId : UInt32)

def Tracker.track (st : Tracker cfg) (packet : Packet) (wire : Octets) (now : Int) (rand : UInt32) :
    Tracker cfg :=
  match reliableTrackSlot nodeId st.entries packet wire with
  | none => st
  | some i =>
    { st with
      entries := reliableTrack nodeId st.entries packet wire now rand
      owner := Function.update st.owner i st.nextTag
      nextTag := st.nextTag + 1
      history := .tracked st.nextTag (reliableEntryFor cfg packet wire now rand) :: st.history }

def Tracker.routing (st : Tracker cfg) (packet : Packet) : Tracker cfg :=
  match reliableRoutingSlot nodeId st.entries packet, reliableOnRouting codec nodeId st.entries packet with
  | some i, (entries, some report) =>
    { st with
      entries := entries
      outbox := st.outbox ++ [(st.owner i, report)]
      history := .released (st.owner i) report :: .routed packet :: st.history }
  | _, _ => { st with history := .routed packet :: st.history }

def Tracker.visit (now : Int) (rand : UInt32) (queued : Bool) (st : Tracker cfg) (i : ReliableSlot cfg) :
    Tracker cfg :=
  let entry := st.entries i
  let next := workEntry cfg now rand entry
  match workAction now entry with
  | .idle => st
  | .expire =>
    { st with
      entries := Function.update st.entries i next
      outbox := st.outbox ++ [(st.owner i, reliableExpiry entry.outcome)]
      history := .released (st.owner i) (reliableExpiry entry.outcome) :: st.history }
  | .retransmit =>
    { st with
      entries := Function.update st.entries i next
      history := .retransmitted (st.owner i) entry.id entry.wire now entry.dueMs next.dueMs queued :: st.history }

def Tracker.work (st : Tracker cfg) (now : Int) (rand : ReliableSlot cfg → UInt32)
    (queued : ReliableSlot cfg → Bool) : Tracker cfg :=
  (List.finRange cfg.reliableMaxPending).foldl (fun st i => st.visit now (rand i) (queued i) i) st

def Tracker.report (st : Tracker cfg) (position : Nat) : Option (Tracker cfg) :=
  st.outbox[position]?.map fun (tag, report) =>
    { st with outbox := st.outbox.eraseIdx position, history := .reported tag report :: st.history }

def Tracker.step (st : Tracker cfg) : TrackerLabel cfg → Option (Tracker cfg)
  | .track packet wire now rand => some (st.track nodeId packet wire now rand)
  | .routing packet => some (st.routing codec nodeId packet)
  | .work now rand queued => some (st.work now rand queued)
  | .report position => st.report position

end

/-! ## The steps, one case for each thing that can happen -/

/-- The effect of one operation on one slot, for calls that `allowed` admits. Every step is a
sequence of these. -/
inductive Tracker.Change {cfg : Kconfig} (codec : Codec) (nodeId : UInt32)
    (allowed : Tracker cfg → TrackerLabel cfg → Prop) (st : Tracker cfg) : Tracker cfg → Prop where
  | tracked (i : ReliableSlot cfg) (packet : Packet) (wire : Octets) (now : Int) (rand : UInt32)
      (admitted : allowed st (.track packet wire now rand)) (free : (st.entries i).id = 0)
      (trackable : reliableTrackable nodeId packet wire = true) :
      Change codec nodeId allowed st
        { st with
          entries := Function.update st.entries i (reliableEntryFor cfg packet wire now rand)
          owner := Function.update st.owner i st.nextTag
          nextTag := st.nextTag + 1
          history := .tracked st.nextTag (reliableEntryFor cfg packet wire now rand) :: st.history }
  | ignored (packet : Packet) :
      Change codec nodeId allowed st { st with history := .routed packet :: st.history }
  | settled (i : ReliableSlot cfg) (packet : Packet) (admitted : allowed st (.routing packet))
      (found : reliableRoutingSlot nodeId st.entries packet = some i) :
      Change codec nodeId allowed st
        { st with
          entries := reliableRelease st.entries i
          outbox := st.outbox ++ [(st.owner i, reliableRoutingReport codec packet (st.entries i).outcome)]
          history := .released (st.owner i) (reliableRoutingReport codec packet (st.entries i).outcome) ::
            .routed packet :: st.history }
  | expired (i : ReliableSlot cfg) (pending : (st.entries i).id ≠ 0) (spent : (st.entries i).attemptsLeft = 0) :
      Change codec nodeId allowed st
        { st with
          entries := reliableRelease st.entries i
          outbox := st.outbox ++ [(st.owner i, reliableExpiry (st.entries i).outcome)]
          history := .released (st.owner i) (reliableExpiry (st.entries i).outcome) :: st.history }
  | retransmitted (i : ReliableSlot cfg) (now nextDue : Int) (queued : Bool) (pending : (st.entries i).id ≠ 0)
      (due : (st.entries i).dueMs ≤ now) (left : (st.entries i).attemptsLeft ≠ 0) :
      Change codec nodeId allowed st
        { st with
          entries := Function.update st.entries i
            { st.entries i with attemptsLeft := (st.entries i).attemptsLeft - 1, dueMs := nextDue }
          history := .retransmitted (st.owner i) (st.entries i).id (st.entries i).wire now
            (st.entries i).dueMs nextDue queued :: st.history }
  | reported (before after : List (Nat × ReliableReport)) (tag : Nat) (report : ReliableReport)
      (waiting : st.outbox = before ++ (tag, report) :: after) :
      Change codec nodeId allowed st
        { st with outbox := before ++ after, history := .reported tag report :: st.history }

section
variable {cfg : Kconfig} {codec : Codec} {nodeId : UInt32} {allowed : Tracker cfg → TrackerLabel cfg → Prop}
  {invariant : Tracker cfg → Prop}

theorem Tracker.visit_invariant
    (preserved : ∀ st next, invariant st → Tracker.Change codec nodeId allowed st next → invariant next)
    {st : Tracker cfg} (start : invariant st) (now : Int) (rand : UInt32) (queued : Bool) (i : ReliableSlot cfg) :
    invariant (st.visit now rand queued i) := by
  unfold Tracker.visit workEntry
  cases action : workAction now (st.entries i) with
  | idle =>
    simp only [action]
    exact start
  | expire =>
    simp only [action]
    unfold workAction at action
    split_ifs at action with idle spent
    simp only [not_or, not_lt] at idle
    exact preserved _ _ start (.expired i idle.1 spent)
  | retransmit =>
    simp only [action]
    unfold workAction at action
    split_ifs at action with idle spent
    simp only [not_or, not_lt] at idle
    exact preserved _ _ start (.retransmitted i now _ queued idle.1 idle.2 spent)

theorem Tracker.work_invariant
    (preserved : ∀ st next, invariant st → Tracker.Change codec nodeId allowed st next → invariant next)
    {st : Tracker cfg} (start : invariant st) (now : Int) (rand : ReliableSlot cfg → UInt32)
    (queued : ReliableSlot cfg → Bool) : invariant (st.work now rand queued) := by
  unfold Tracker.work
  generalize List.finRange cfg.reliableMaxPending = slots
  induction slots generalizing st with
  | nil => exact start
  | cons i rest ih => exact ih (Tracker.visit_invariant preserved start now (rand i) (queued i) i)

theorem Tracker.step_invariant
    (preserved : ∀ st next, invariant st → Tracker.Change codec nodeId allowed st next → invariant next)
    (st : Tracker cfg) (label : TrackerLabel cfg) (next : Tracker cfg) (start : invariant st)
    (admitted : allowed st label) (taken : st.step codec nodeId label = some next) : invariant next := by
  cases label with
  | track packet wire now rand =>
    simp only [Tracker.step, Tracker.track, Option.some.injEq] at taken
    cases found : reliableTrackSlot nodeId st.entries packet wire with
    | none =>
      rw [found] at taken
      exact taken ▸ start
    | some i =>
      simp only [found, reliableTrack] at taken
      obtain ⟨trackable, free⟩ := reliableTrackSlot_eq_some found
      subst taken
      exact preserved _ _ start (.tracked i packet wire now rand admitted free trackable)
  | routing packet =>
    simp only [Tracker.step, Tracker.routing, reliableOnRouting, Option.some.injEq] at taken
    cases found : reliableRoutingSlot nodeId st.entries packet with
    | none =>
      simp only [found] at taken
      subst taken
      exact preserved _ _ start (.ignored packet)
    | some i =>
      simp only [found] at taken
      subst taken
      exact preserved _ _ start (.settled i packet admitted found)
  | work now rand queued =>
    cases taken
    exact Tracker.work_invariant preserved start now rand queued
  | report position =>
    simp only [Tracker.step, Tracker.report, Option.map_eq_some_iff] at taken
    obtain ⟨⟨tag, report⟩, there, same⟩ := taken
    subst same
    have bound : position < st.outbox.length := (List.getElem?_eq_some_iff.mp there).1
    have split : st.outbox = st.outbox.take position ++ (tag, report) :: st.outbox.drop (position + 1) := by
      rw [← (List.getElem?_eq_some_iff.mp there).2, List.getElem_cons_drop, List.take_append_drop]
    rw [List.eraseIdx_eq_take_drop_succ]
    exact preserved _ _ start (.reported _ _ tag report split)

theorem Tracker.run_invariant
    (preserved : ∀ st next, invariant st → Tracker.Change codec nodeId allowed st next → invariant next)
    {st last : Tracker cfg} {labels : List (TrackerLabel cfg)} (start : invariant st)
    (guarded : Transition.Guarded (Tracker.step codec nodeId) allowed st labels)
    (done : Transition.run (Tracker.step codec nodeId) st labels = some last) : invariant last :=
  Transition.run_invariant (Tracker.step_invariant preserved) start guarded done

end

theorem Tracker.work_entries {cfg : Kconfig} (st : Tracker cfg) (now : Int) (rand : ReliableSlot cfg → UInt32)
    (queued : ReliableSlot cfg → Bool) :
    (st.work now rand queued).entries = reliableWorkTable st.entries now rand := by
  have visited : ∀ (st : Tracker cfg) (i : ReliableSlot cfg),
      (st.visit now (rand i) (queued i) i).entries =
        Function.update st.entries i (workEntry cfg now (rand i) (st.entries i)) := by
    intro st i
    unfold Tracker.visit
    cases action : workAction now (st.entries i) with
    | idle => simp [workEntry, action]
    | expire => simp [workEntry, action]
    | retransmit => simp [workEntry, action]
  have loop : ∀ (slots : List (ReliableSlot cfg)) (st : Tracker cfg), slots.Nodup → ∀ i,
      (slots.foldl (fun st i => st.visit now (rand i) (queued i) i) st).entries i =
        if i ∈ slots then workEntry cfg now (rand i) (st.entries i) else st.entries i := by
    intro slots
    induction slots with
    | nil =>
      intro st _ i
      simp
    | cons j rest ih =>
      intro st distinct i
      obtain ⟨absent, distinctRest⟩ := List.nodup_cons.mp distinct
      rw [List.foldl_cons, ih _ distinctRest i, visited]
      by_cases here : i = j
      · subst i
        simp [absent]
      · simp [here]
  funext i
  rw [Tracker.work, loop _ st (List.nodup_finRange _) i, if_pos (List.mem_finRange i)]
  rfl

end Meshtastic
