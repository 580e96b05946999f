import Meshtastic.TrackerRetry

/-! Who acknowledged, and how many outcomes an id gets. The tracker matches acknowledgements by
packet id alone and stores ids without looking for them, so both answers depend on what it is fed. -/

namespace Meshtastic
open Bytes

section
variable {cfg : Kconfig} {codec : Codec} {nodeId : UInt32}

/-! ## Acknowledgements come from the destination -/

/-- Every acknowledgement for a pending id comes from the node that packet was sent to. -/
def AckFromDestination (codec : Codec) (nodeId : UInt32) (st : Tracker cfg) : TrackerLabel cfg → Prop
  | .routing packet => ∀ i, reliableRoutingSlot nodeId st.entries packet = some i →
      reliableRoutingIsAck codec packet.payload = true → packet.from_ = (st.entries i).dest
  | _ => True

instance (codec : Codec) (nodeId : UInt32) (st : Tracker cfg) (label : TrackerLabel cfg) :
    Decidable (AckFromDestination codec nodeId st label) :=
  match label with
  | .routing _ => inferInstanceAs (Decidable (∀ _, _))
  | .track _ _ _ _ => isTrue trivial
  | .work _ _ _ => isTrue trivial
  | .report _ => isTrue trivial

/-- An entry is released as delivered right after a ROUTING packet of its destination. -/
def DeliveredRule (nodeId : UInt32) : TrackerEvent → List TrackerEvent → Prop
  | .released tag report, older => report.type = .txAcked →
    ∃ packet before entry, older = .routed packet :: before ∧ packet.portnum = PORT_ROUTING ∧
      packet.to_ = nodeId ∧ packet.requestId = report.outcome.id ∧ packet.from_ = report.outcome.dest ∧
      .tracked tag entry ∈ before ∧ entry.outcome = report.outcome
  | _, _ => True

def Tracker.Delivered (nodeId : UInt32) (st : Tracker cfg) : Prop :=
  st.Sound ∧ History.Lawful (DeliveredRule nodeId) st.history

theorem Tracker.delivered_change (st next : Tracker cfg) (before : st.Delivered nodeId)
    (change : Tracker.Change codec nodeId (AckFromDestination codec nodeId) st next) :
    next.Delivered nodeId := by
  obtain ⟨sound, lawful⟩ := before
  refine ⟨Tracker.Sound.change st next sound change, ?_⟩
  cases change with
  | tracked => exact ⟨trivial, lawful⟩
  | ignored => exact ⟨trivial, lawful⟩
  | retransmitted => exact ⟨trivial, lawful⟩
  | reported => exact ⟨trivial, lawful⟩
  | expired =>
    refine ⟨?_, lawful⟩
    intro delivered
    cases delivered
  | settled i packet admitted found =>
    refine ⟨?_, trivial, lawful⟩
    intro delivered
    obtain ⟨port, toUs, request, matched⟩ := reliableRoutingSlot_eq_some found
    have acks : reliableRoutingIsAck codec packet.payload = true := by
      by_contra nak
      simp [reliableRoutingReport, nak] at delivered
    have pending : (st.entries i).id ≠ 0 := by
      rw [matched]
      exact request
    obtain ⟨entry, tracked, same, -⟩ := (sound.pending i pending).origin
    rw [reliableRoutingReport_outcome]
    exact ⟨packet, st.history, entry, rfl, port, toUs, matched.symm, admitted i found acks, tracked, same⟩

/-- In every run in which acknowledgements for pending ids come from the packet's destination, a packet
is reported as acknowledged only after a ROUTING packet of that destination was processed, and that
after the packet was tracked; and no other node's ROUTING packet releases an entry as delivered. -/
theorem acked_by_destination (cfg : Kconfig) (codec : Codec) (nodeId : UInt32)
    (labels : List (TrackerLabel cfg)) {last : Tracker cfg}
    (fromDest : Transition.Guarded (Tracker.step codec nodeId) (AckFromDestination codec nodeId)
      (Tracker.empty cfg) labels)
    (done : Transition.run (Tracker.step codec nodeId) (Tracker.empty cfg) labels = some last) :
    (∀ newer older tag report, last.history = newer ++ .reported tag report :: older → report.type = .txAcked →
      ∃ later before packet entry, older = later ++ .routed packet :: before ∧ packet.portnum = PORT_ROUTING ∧
        packet.from_ = report.outcome.dest ∧ packet.to_ = nodeId ∧ packet.requestId = report.outcome.id ∧
        .tracked tag entry ∈ before ∧ entry.outcome = report.outcome) ∧
    (∀ newer older tag report, last.history = newer ++ .released tag report :: older → report.type = .txAcked →
      ∃ packet before, older = .routed packet :: before ∧ packet.from_ = report.outcome.dest) := by
  have delivered : last.Delivered nodeId :=
    Tracker.run_invariant Tracker.delivered_change ⟨Tracker.empty_sound, trivial⟩ fromDest done
  obtain ⟨sound, lawful⟩ := delivered
  constructor
  · intro newer older tag report split acked
    have retry := sound.lawful
    rw [split] at retry lawful
    have released := (History.lawful_at retry).1
    obtain ⟨later, before, same, may⟩ := History.lawful_mem (History.lawful_older lawful).2 released
    obtain ⟨packet, earlier, entry, atOnce, port, toUs, request, sender, tracked, outcome⟩ := may acked
    refine ⟨later ++ [.released tag report], earlier, packet, entry, ?_, port, sender, toUs, request, tracked, outcome⟩
    rw [same, atOnce, List.append_assoc]
    rfl
  · intro newer older tag report split acked
    rw [split] at lawful
    obtain ⟨packet, before, entry, atOnce, -, -, -, sender, -⟩ := History.lawful_at lawful acked
    exact ⟨packet, before, atOnce, sender⟩

end

def ackOfGreeting (sender : UInt32) : Packet :=
  { from_ := sender, to_ := 0x11, id := 1, portnum := PORT_ROUTING, payload := [0x18, 0x00], requestId := 7 }

theorem acked_by_destination_answered :
    ∃ last, Transition.run (Tracker.step (dataCodec fun _ _ _ => 0) 0x11) (Tracker.empty smallKconfig)
        [.track greeting [1] 0 0, .routing (ackOfGreeting 0x22), .report 0] = some last ∧
      ∃ later before packet entry, last.history.tail = later ++ .routed packet :: before ∧
        packet.portnum = PORT_ROUTING ∧ packet.from_ = 0x22 ∧ packet.to_ = 0x11 ∧ packet.requestId = 7 ∧
        .tracked 0 entry ∈ before ∧ entry.outcome = ⟨7, 0x22, PORT_TEXT_MESSAGE⟩ := by
  refine ⟨_, rfl, ?_⟩
  exact (acked_by_destination smallKconfig (dataCodec fun _ _ _ => 0) 0x11
    [.track greeting [1] 0 0, .routing (ackOfGreeting 0x22), .report 0] (by decide) rfl).1 [] _ 0 _ rfl rfl

def TrackerEvent.routedFrom : TrackerEvent → Option UInt32
  | .routed packet => some packet.from_
  | _ => none

/-- A third node's ROUTING packet settles the entry: the destination never answered. -/
theorem acked_by_stranger :
    ∃ last, Transition.run (Tracker.step (dataCodec fun _ _ _ => 0) 0x11) (Tracker.empty smallKconfig)
        [.track greeting [1] 0 0, .routing (ackOfGreeting 0x33), .report 0] = some last ∧
      .reported 0 ⟨⟨7, 0x22, PORT_TEXT_MESSAGE⟩, .txAcked, none⟩ ∈ last.history ∧
      ∀ event ∈ last.history, event.routedFrom ≠ some 0x22 :=
  ⟨_, rfl, by decide, by decide⟩

/-! ## One outcome for each id -/

def opened : List TrackerEvent → UInt32 → Bool
  | [], _ => false
  | .tracked _ entry :: older, id => entry.id = id || opened older id
  | .reported _ report :: older, id => report.outcome.id ≠ id && opened older id
  | _ :: older, id => opened older id

/-- An id is tracked while closed; it is retransmitted and reported while open. -/
def OutcomeRule : TrackerEvent → List TrackerEvent → Prop
  | .tracked _ entry, older => opened older entry.id = false
  | .retransmitted _ id _ _ _ _ _, older => opened older id = true
  | .reported _ report, older => opened older report.outcome.id = true ∧ report.outcome.id ≠ 0
  | _, _ => True

theorem closed_after_report {middle older : List TrackerEvent} {tag : Nat} {report : ReliableReport}
    (lawful : History.Lawful OutcomeRule (middle ++ .reported tag report :: older))
    (untracked : ∀ t entry, .tracked t entry ∈ middle → entry.id ≠ report.outcome.id) :
    opened (middle ++ .reported tag report :: older) report.outcome.id = false ∧
    (∀ t id wire now due nextDue queued, .retransmitted t id wire now due nextDue queued ∈ middle →
      id ≠ report.outcome.id) ∧
    (∀ t other, .reported t other ∈ middle → other.outcome.id ≠ report.outcome.id) := by
  induction middle with
  | nil => simp [opened]
  | cons event rest ih =>
    obtain ⟨may, before⟩ := lawful
    obtain ⟨closed, noRetry, noReport⟩ :=
      ih before fun t entry member => untracked t entry (List.mem_cons_of_mem _ member)
    refine ⟨?_, ?_, ?_⟩
    · cases event with
      | tracked t entry =>
        have other := untracked t entry List.mem_cons_self
        simp only [List.cons_append, opened, closed, Bool.or_false, decide_eq_false_iff_not]
        exact other
      | reported t other => simp [opened, closed]
      | routed => exact closed
      | retransmitted => exact closed
      | released => exact closed
    · intro t id wire now due nextDue queued member same
      rcases List.mem_cons.mp member with here | inRest
      · subst here
        have open_ : opened (rest ++ .reported tag report :: older) id = true := may
        rw [same, closed] at open_
        contradiction
      · exact noRetry t id wire now due nextDue queued inRest same
    · intro t other member same
      rcases List.mem_cons.mp member with here | inRest
      · subst here
        have open_ : opened (rest ++ .reported tag report :: older) other.outcome.id = true := may.1
        rw [same, closed] at open_
        contradiction
      · exact noReport t other inRest same

section
variable {cfg : Kconfig} {codec : Codec} {nodeId : UInt32}

/-- No packet is tracked under an id that a pending entry or an outcome still to be reported carries. -/
def IdUnused (nodeId : UInt32) (st : Tracker cfg) : TrackerLabel cfg → Prop
  | .track packet wire _ _ => ∀ slot, reliableTrackSlot nodeId st.entries packet wire = some slot →
      (∀ i, (st.entries i).id ≠ packet.id) ∧ ∀ item ∈ st.outbox, item.2.outcome.id ≠ packet.id
  | _ => True

instance (nodeId : UInt32) (st : Tracker cfg) (label : TrackerLabel cfg) : Decidable (IdUnused nodeId st label) :=
  match label with
  | .track _ _ _ _ => inferInstanceAs (Decidable (∀ _, _))
  | .routing _ => isTrue trivial
  | .work _ _ _ => isTrue trivial
  | .report _ => isTrue trivial

/-- The ids in use, in the table or waiting to be reported, are distinct and are the open ones. -/
structure Tracker.Unique (st : Tracker cfg) : Prop where
  lawful : History.Lawful OutcomeRule st.history
  table : ∀ i j, (st.entries i).id ≠ 0 → (st.entries i).id = (st.entries j).id → i = j
  apart : ∀ i, ∀ item ∈ st.outbox, (st.entries i).id ≠ item.2.outcome.id
  outbox : st.outbox.Pairwise (fun first second => first.2.outcome.id ≠ second.2.outcome.id)
  nonzero : ∀ item ∈ st.outbox, item.2.outcome.id ≠ 0
  opens : ∀ id, opened st.history id = true ↔
    (id ≠ 0 ∧ ∃ i, (st.entries i).id = id) ∨ ∃ item ∈ st.outbox, item.2.outcome.id = id

variable {st : Tracker cfg}

theorem release_inUse {entries : ReliableTable cfg} {outbox : List (Nat × ReliableReport)} {i : ReliableSlot cfg}
    {tag : Nat} {report : ReliableReport} (pending : (entries i).id ≠ 0)
    (id : report.outcome.id = (entries i).id) (x : UInt32) :
    (x ≠ 0 ∧ ∃ j, (entries j).id = x) ∨ (∃ item ∈ outbox, item.2.outcome.id = x) ↔
      (x ≠ 0 ∧ ∃ j, (reliableRelease entries i j).id = x) ∨
        ∃ item ∈ outbox ++ [(tag, report)], item.2.outcome.id = x := by
  constructor
  · intro used
    rcases used with ⟨nonzero, j, same⟩ | ⟨item, member, same⟩
    · by_cases here : j = i
      · subst j
        exact .inr ⟨(tag, report), List.mem_append_right _ (List.mem_singleton_self _), id.trans same⟩
      · exact .inl ⟨nonzero, j, by rw [reliableRelease_of_ne entries here]; exact same⟩
    · exact .inr ⟨item, List.mem_append_left _ member, same⟩
  · intro used
    rcases used with ⟨nonzero, j, same⟩ | ⟨item, member, same⟩
    · have kept := (reliableRelease_pending (by rw [same]; exact nonzero)).2
      exact .inl ⟨nonzero, j, by rw [← kept]; exact same⟩
    · rcases List.mem_append.mp member with before | new
      · exact .inr ⟨item, before, same⟩
      · rw [List.mem_singleton.mp new, id] at same
        exact .inl ⟨same ▸ pending, i, same⟩

theorem track_inUse {entries : ReliableTable cfg} {i : ReliableSlot cfg} {entry : ReliableEntry} {x : UInt32}
    (free : (entries i).id = 0) (used : x ≠ 0) (other : entry.id ≠ x) :
    (∃ j, (entries j).id = x) ↔ ∃ j, (Function.update entries i entry j).id = x := by
  constructor
  · intro ⟨j, at_⟩
    have elsewhere : j ≠ i := by
      intro here
      rw [here] at at_
      exact used (at_.symm.trans free)
    exact ⟨j, by rw [Function.update_of_ne elsewhere]; exact at_⟩
  · intro ⟨j, at_⟩
    by_cases here : j = i
    · rw [here, Function.update_self] at at_
      exact absurd at_ other
    · rw [Function.update_of_ne here] at at_
      exact ⟨j, at_⟩

theorem report_inUse {before after : List (Nat × ReliableReport)} {tag : Nat} {report : ReliableReport} {x : UInt32}
    (other : report.outcome.id ≠ x) :
    (∃ item ∈ before ++ (tag, report) :: after, item.2.outcome.id = x) ↔
      ∃ item ∈ before ++ after, item.2.outcome.id = x := by
  constructor
  · intro ⟨item, member, at_⟩
    rcases List.mem_append.mp member with first | rest
    · exact ⟨item, List.mem_append_left _ first, at_⟩
    · rcases List.mem_cons.mp rest with this | last
      · rw [this] at at_
        exact absurd at_ other
      · exact ⟨item, List.mem_append_right _ last, at_⟩
  · intro ⟨item, member, at_⟩
    exact ⟨item, ((List.sublist_cons_self _ after).append_left before).subset member, at_⟩

theorem Tracker.Unique.release (unique : st.Unique) {i : ReliableSlot cfg} {tag : Nat} {report : ReliableReport}
    (pending : (st.entries i).id ≠ 0) (outcome : report.outcome = (st.entries i).outcome) :
    Tracker.Unique
      { st with
        entries := reliableRelease st.entries i
        outbox := st.outbox ++ [(tag, report)]
        history := .released tag report :: st.history } := by
  have id : report.outcome.id = (st.entries i).id := by rw [outcome]; rfl
  refine ⟨⟨trivial, unique.lawful⟩, ?_, ?_, ?_, ?_, ?_⟩
  · intro j k busy same
    have busyK : (reliableRelease st.entries i k).id ≠ 0 := by
      rw [← same]
      exact busy
    simp only [(reliableRelease_pending busy).2, (reliableRelease_pending busyK).2] at busy same
    exact unique.table j k busy same
  · intro j item member
    by_cases here : j = i
    · subst j
      simp only [reliableRelease_self]
      rcases List.mem_append.mp member with before | new
      · exact Ne.symm (unique.nonzero item before)
      · rw [List.mem_singleton.mp new, id]
        exact Ne.symm pending
    · simp only [reliableRelease_of_ne st.entries here]
      rcases List.mem_append.mp member with before | new
      · exact unique.apart j item before
      · rw [List.mem_singleton.mp new, id]
        intro same
        exact here (unique.table i j pending same.symm).symm
  · apply List.pairwise_append.mpr
    refine ⟨unique.outbox, List.pairwise_singleton _ _, ?_⟩
    intro item member new here
    rw [List.mem_singleton.mp here, id]
    exact Ne.symm (unique.apart i item member)
  · intro item member
    rcases List.mem_append.mp member with before | new
    · exact unique.nonzero item before
    · rw [List.mem_singleton.mp new, id]
      exact pending
  · intro x
    exact (unique.opens x).trans (release_inUse pending id x)

theorem Tracker.Unique.track (unique : st.Unique) {i : ReliableSlot cfg} {entry : ReliableEntry}
    (free : (st.entries i).id = 0) (nonzero : entry.id ≠ 0) (newTable : ∀ j, (st.entries j).id ≠ entry.id)
    (newOutbox : ∀ item ∈ st.outbox, item.2.outcome.id ≠ entry.id) (tag : Nat) (owner : ReliableSlot cfg → Nat)
    (nextTag : Nat) :
    Tracker.Unique
      { st with
        entries := Function.update st.entries i entry
        owner := owner
        nextTag := nextTag
        history := .tracked tag entry :: st.history } := by
  have closed : opened st.history entry.id = false := by
    by_contra open_
    rcases (unique.opens entry.id).mp (by simpa using open_) with ⟨-, j, same⟩ | ⟨item, member, same⟩
    · exact newTable j same
    · exact newOutbox item member same
  refine ⟨⟨closed, unique.lawful⟩, ?_, ?_, unique.outbox, unique.nonzero, ?_⟩
  · intro j k busy same
    by_cases hereJ : j = i
    · by_cases hereK : k = i
      · rw [hereJ, hereK]
      · simp only [hereJ, Function.update_self, Function.update_of_ne hereK] at same
        exact False.elim (newTable k same.symm)
    · by_cases hereK : k = i
      · simp only [hereK, Function.update_self, Function.update_of_ne hereJ] at same
        exact False.elim (newTable j same)
      · simp only [Function.update_of_ne hereJ, Function.update_of_ne hereK] at busy same
        exact unique.table j k busy same
  · intro j item member
    by_cases here : j = i
    · subst j
      simp only [Function.update_self]
      exact Ne.symm (newOutbox item member)
    · simp only [Function.update_of_ne here]
      exact unique.apart j item member
  · intro x
    have old := unique.opens x
    by_cases same : entry.id = x
    · simp only [opened, same, decide_true, Bool.true_or, true_iff]
      exact .inl ⟨same ▸ nonzero, i, by simp only [Function.update_self]; exact same⟩
    · simp only [opened, same, decide_false, Bool.false_or]
      exact old.trans (or_congr_left (and_congr_right fun used => track_inUse free used same))

theorem Tracker.Unique.report (unique : st.Unique) {before after : List (Nat × ReliableReport)} {tag : Nat}
    {report : ReliableReport} (waiting : st.outbox = before ++ (tag, report) :: after) :
    Tracker.Unique { st with outbox := before ++ after, history := .reported tag report :: st.history } := by
  have kept : ∀ item ∈ before ++ after, item ∈ st.outbox := by
    intro item member
    rw [waiting]
    exact ((List.sublist_cons_self _ after).append_left before).subset member
  have here : (tag, report) ∈ st.outbox := by
    rw [waiting]
    exact List.mem_append_right before List.mem_cons_self
  have others : ∀ item ∈ before ++ after, item.2.outcome.id ≠ report.outcome.id := by
    have distinct := unique.outbox
    rw [waiting] at distinct
    obtain ⟨-, second, across⟩ := List.pairwise_append.mp distinct
    intro item member
    rcases List.mem_append.mp member with first | last
    · exact across item first (tag, report) List.mem_cons_self
    · exact Ne.symm ((List.pairwise_cons.mp second).1 item last)
  have open_ : opened st.history report.outcome.id = true :=
    (unique.opens _).mpr (.inr ⟨(tag, report), here, rfl⟩)
  refine ⟨⟨⟨open_, unique.nonzero _ here⟩, unique.lawful⟩, unique.table, ?_, ?_, ?_, ?_⟩
  · intro i item member
    exact unique.apart i item (kept item member)
  · have distinct := unique.outbox
    rw [waiting] at distinct
    exact distinct.sublist (List.Sublist.append_left (List.sublist_cons_self _ after) before)
  · intro item member
    exact unique.nonzero item (kept item member)
  · intro x
    by_cases same : report.outcome.id = x
    · subst x
      simp only [opened, ne_eq, not_true_eq_false, decide_false, Bool.false_and, Bool.false_eq_true, false_iff]
      intro used
      rcases used with ⟨-, i, at_⟩ | ⟨item, member, at_⟩
      · exact unique.apart i (tag, report) here at_
      · exact others item member at_
    · simp only [opened, ne_eq, same, not_false_eq_true, decide_true, Bool.true_and]
      have old := unique.opens x
      rw [waiting] at old
      exact old.trans (or_congr_right (report_inUse same))

theorem Tracker.Unique.retransmit (unique : st.Unique) {i : ReliableSlot cfg} {entry : ReliableEntry}
    (pending : (st.entries i).id ≠ 0) (sameId : entry.id = (st.entries i).id) {tag : Nat} {wire : Octets}
    {now due nextDue : Int} {queued : Bool} :
    Tracker.Unique
      { st with
        entries := Function.update st.entries i entry
        history := .retransmitted tag (st.entries i).id wire now due nextDue queued :: st.history } := by
  have ids : ∀ j, (Function.update st.entries i entry j).id = (st.entries j).id := by
    intro j
    by_cases here : j = i
    · rw [here, Function.update_self, sameId]
    · rw [Function.update_of_ne here]
  have open_ : opened st.history (st.entries i).id = true := (unique.opens _).mpr (.inl ⟨pending, i, rfl⟩)
  refine ⟨⟨open_, unique.lawful⟩, ?_, ?_, unique.outbox, unique.nonzero, ?_⟩
  · intro j k
    simp only [ids]
    exact unique.table j k
  · intro j item member
    simp only [ids]
    exact unique.apart j item member
  · intro x
    simp only [ids]
    exact unique.opens x

theorem Tracker.Unique.change (st next : Tracker cfg) (unique : st.Unique)
    (change : Tracker.Change codec nodeId (IdUnused nodeId) st next) : next.Unique := by
  have ignore : ∀ packet, Tracker.Unique { st with history := .routed packet :: st.history } := fun packet =>
    { unique with lawful := ⟨trivial, unique.lawful⟩ }
  cases change with
  | tracked i packet wire now rand admitted free trackable =>
    obtain ⟨newTable, newOutbox⟩ : (∀ j, (st.entries j).id ≠ packet.id) ∧
        ∀ item ∈ st.outbox, item.2.outcome.id ≠ packet.id := by
      have room : (reliableTrackSlot nodeId st.entries packet wire).isSome = true := by
        rw [reliableTrackSlot, if_pos trackable]
        cases found : findSlot st.entries (fun entry => entry.id = 0) with
        | some slot => rfl
        | none => simpa [free] using findSlot_eq_none found i
      exact admitted _ (Option.some_get room).symm
    exact unique.track free (reliableTrackable_id trackable) newTable newOutbox _ _ _
  | ignored packet => exact ignore packet
  | settled i packet admitted found =>
    obtain ⟨-, -, request, matched⟩ := reliableRoutingSlot_eq_some found
    exact (ignore packet).release (by rw [matched]; exact request)
      (reliableRoutingReport_outcome codec packet _)
  | expired i pending spent => exact unique.release pending rfl
  | retransmitted i now nextDue queued pending due left =>
    apply unique.retransmit pending
    rfl
  | reported before after tag report waiting => exact unique.report waiting

theorem Tracker.empty_unique : (Tracker.empty cfg).Unique where
  lawful := trivial
  table := fun _ _ busy => False.elim (busy rfl)
  apart := fun _ _ member => False.elim (List.not_mem_nil member)
  outbox := List.Pairwise.nil
  nonzero := fun _ member => False.elim (List.not_mem_nil member)
  opens := by
    intro id
    simp only [Tracker.empty, opened, Bool.false_eq_true, false_iff, List.not_mem_nil, false_and, exists_false,
      or_false, not_and]
    intro nonzero used
    obtain ⟨i, same⟩ := used
    exact nonzero same.symm

end

/-- In every run that tracks no packet under an id still in use, the table holds each id once; and from
the report of an id's outcome until that id is tracked again nothing is retransmitted or reported
for it and no entry carries it. -/
theorem one_outcome_per_id (cfg : Kconfig) (codec : Codec) (nodeId : UInt32)
    (labels : List (TrackerLabel cfg)) {last : Tracker cfg}
    (unused : Transition.Guarded (Tracker.step codec nodeId) (IdUnused nodeId) (Tracker.empty cfg) labels)
    (done : Transition.run (Tracker.step codec nodeId) (Tracker.empty cfg) labels = some last) :
    (∀ i j, (last.entries i).id ≠ 0 → (last.entries i).id = (last.entries j).id → i = j) ∧
    (∀ newer middle older tag report, last.history = newer ++ (middle ++ .reported tag report :: older) →
      (∀ t entry, .tracked t entry ∈ middle → entry.id ≠ report.outcome.id) →
      (∀ t id wire now due nextDue queued, .retransmitted t id wire now due nextDue queued ∈ middle →
        id ≠ report.outcome.id) ∧
      (∀ t other, .reported t other ∈ middle → other.outcome.id ≠ report.outcome.id) ∧
      (newer = [] → ∀ i, (last.entries i).id ≠ report.outcome.id)) := by
  have unique : last.Unique := Tracker.run_invariant Tracker.Unique.change Tracker.empty_unique unused done
  refine ⟨unique.table, ?_⟩
  intro newer middle older tag report split untracked
  have lawful := unique.lawful
  rw [split] at lawful
  obtain ⟨closed, noRetry, noReport⟩ := closed_after_report (History.lawful_older lawful) untracked
  refine ⟨noRetry, noReport, ?_⟩
  intro none i same
  have nonzero : report.outcome.id ≠ 0 :=
    (History.lawful_at (History.lawful_older lawful)).2
  have open_ := (unique.opens report.outcome.id).mpr (.inl ⟨nonzero, i, same⟩)
  rw [split, none, List.nil_append, closed] at open_
  contradiction

theorem one_outcome_per_id_resent :
    ∃ last, Transition.run (Tracker.step (dataCodec fun _ _ _ => 0) 0x11) (Tracker.empty smallKconfig)
        [.track greeting [1] 0 0, .routing (ackOfGreeting 0x22), .report 0, .track greeting [1] 500 0] = some last ∧
      ∀ i j, (last.entries i).id ≠ 0 → (last.entries i).id = (last.entries j).id → i = j := by
  refine ⟨_, rfl, ?_⟩
  exact (one_outcome_per_id smallKconfig (dataCodec fun _ _ _ => 0) 0x11
    [.track greeting [1] 0 0, .routing (ackOfGreeting 0x22), .report 0, .track greeting [1] 500 0]
    (by decide) rfl).1

/-- A phone that repeats a message under the same id fills two slots: the acknowledgement settles one, and
after it has been reported the other is still retransmitted and then reported as not acknowledged. -/
theorem two_outcomes_for_one_id :
    (∃ last, Transition.run (Tracker.step (dataCodec fun _ _ _ => 0) 0x11) (Tracker.empty smallKconfig)
        [.track greeting [1] 0 0, .track greeting [1] 500 0] = some last ∧
      ¬∀ i j, (last.entries i).id ≠ 0 → (last.entries i).id = (last.entries j).id → i = j) ∧
    (∃ last, Transition.run (Tracker.step (dataCodec fun _ _ _ => 0) 0x11) (Tracker.empty smallKconfig)
        [.track greeting [1] 0 0, .track greeting [1] 500 0, .routing (ackOfGreeting 0x22), .report 0,
          .work 2000 (fun _ => 0) (fun _ => true), .work 3000 (fun _ => 0) (fun _ => true), .report 0] = some last ∧
      last.history.take 5 =
        [.reported 1 ⟨⟨7, 0x22, PORT_TEXT_MESSAGE⟩, .txNoAck, some .etimedout⟩,
          .released 1 ⟨⟨7, 0x22, PORT_TEXT_MESSAGE⟩, .txNoAck, some .etimedout⟩,
          .retransmitted 1 7 [1] 2000 1500 3000 true,
          .reported 0 ⟨⟨7, 0x22, PORT_TEXT_MESSAGE⟩, .txAcked, none⟩,
          .released 0 ⟨⟨7, 0x22, PORT_TEXT_MESSAGE⟩, .txAcked, none⟩]) :=
  ⟨⟨_, rfl, by decide⟩, ⟨_, rfl, by decide⟩⟩

end Meshtastic
