import Meshtastic.DataCodec
import Meshtastic.Lib.Run
import Meshtastic.Reliable

/-! One `meshtastic_send_packet` call with want_ack, step by step, while the receive thread
processes frames. The entry is stored only after the transmit has returned, so what happens to
an acknowledgement depends on which side of that step it is processed. -/

namespace Meshtastic
open Bytes

/-- Where the sending thread is: the frame is built, on air, reported with TX_DONE, and tracked. -/
inductive SendPhase where
  | called
  | built
  | onAir
  | transmitted
  | returned
  deriving DecidableEq

structure SendRace (cfg : Kconfig) where
  phase : SendPhase
  entries : ReliableTable cfg
  outbox : List ReliableReport
  emitted : List ReliableReport

/-- The steps of the sending thread, a frame handled by the receive thread, and the report of an
outcome that the receive thread captured. -/
inductive RaceLabel where
  | build
  | goOnAir
  | complete
  | track (now : Int) (rand : UInt32)
  | receive (packet : Packet)
  | emit (position : Nat)

def SendRace.start {cfg : Kconfig} (entries : ReliableTable cfg) : SendRace cfg :=
  { phase := .called, entries := entries, outbox := [], emitted := [] }

def SendRace.step {cfg : Kconfig} (codec : Codec) (nodeId : UInt32) (local_ : Packet) (wire : Octets)
    (st : SendRace cfg) : RaceLabel → Option (SendRace cfg)
  | .build => if st.phase = .called then some { st with phase := .built } else none
  | .goOnAir => if st.phase = .built then some { st with phase := .onAir } else none
  | .complete => if st.phase = .onAir then some { st with phase := .transmitted } else none
  | .track now rand =>
    if st.phase = .transmitted then
      some { st with phase := .returned, entries := reliableTrack nodeId st.entries local_ wire now rand }
    else none
  | .receive packet =>
    let (entries, report) := reliableOnRouting codec nodeId st.entries packet
    some { st with entries := entries, outbox := st.outbox ++ report.toList }
  | .emit position =>
    st.outbox[position]?.map fun report =>
      { st with outbox := st.outbox.eraseIdx position, emitted := st.emitted ++ [report] }

def SendRace.outcomes {cfg : Kconfig} (st : SendRace cfg) (id : UInt32) : List ReliableReport :=
  (st.emitted ++ st.outbox).filter (fun report => report.outcome.id = id)

def SendRace.Acked {cfg : Kconfig} (st : SendRace cfg) (id : UInt32) : Prop :=
  (∀ i, (st.entries i).id ≠ id) ∧ ∃ outcome, st.outcomes id = [⟨outcome, .txAcked, none⟩]

def answers (nodeId id : UInt32) (packet : Packet) : Bool :=
  packet.portnum = PORT_ROUTING && packet.to_ = nodeId && packet.requestId = id

/-- The first answer for the id among the frames a list of steps receives. -/
def firstAnswer (nodeId id : UInt32) : List RaceLabel → Option Packet
  | [] => none
  | .receive packet :: rest => if answers nodeId id packet then some packet else firstAnswer nodeId id rest
  | _ :: rest => firstAnswer nodeId id rest

section
variable {cfg : Kconfig} {codec : Codec} {nodeId : UInt32} {local_ : Packet} {wire : Octets}

/-! ## What a received frame does to an id -/

theorem reliableOnRouting_other (codec : Codec) (entries : ReliableTable cfg) (packet : Packet) {id : UInt32}
    (other : answers nodeId id packet = false) :
    (∀ i, (entries i).id = id → id ≠ 0 → ((reliableOnRouting codec nodeId entries packet).1 i) = entries i) ∧
    (∀ i, id ≠ 0 → ((reliableOnRouting codec nodeId entries packet).1 i).id = id → (entries i).id = id) ∧
    (reliableOnRouting codec nodeId entries packet).2.toList.filter (fun report => report.outcome.id = id) = [] := by
  unfold reliableOnRouting
  cases found : reliableRoutingSlot nodeId entries packet with
  | none => simp
  | some slot =>
    obtain ⟨port, toUs, -, matched⟩ := reliableRoutingSlot_eq_some found
    have different : (entries slot).id ≠ id := by
      intro same
      simp [answers, port, toUs, ← matched, same] at other
    refine ⟨?_, ?_, ?_⟩
    · intro i here _
      have elsewhere : i ≠ slot := fun same => different (same ▸ here)
      exact Function.update_of_ne elsewhere _ _
    · intro i nonzero here
      have kept := (reliableRelease_pending (by rw [here]; exact nonzero)).2
      rw [← kept]
      exact here
    · have outcome : (reliableRoutingReport codec packet (entries slot).outcome).outcome.id = (entries slot).id := by
        rw [reliableRoutingReport_outcome]
        rfl
      simp [outcome, different]

theorem reliableOnRouting_absent (codec : Codec) (nodeId : UInt32) {entries : ReliableTable cfg}
    (packet : Packet) {id : UInt32} (absent : ∀ i, (entries i).id ≠ id) (nonzero : id ≠ 0) :
    (∀ i, ((reliableOnRouting codec nodeId entries packet).1 i).id ≠ id) ∧
    (reliableOnRouting codec nodeId entries packet).2.toList.filter (fun report => report.outcome.id = id) = [] := by
  unfold reliableOnRouting
  cases found : reliableRoutingSlot nodeId entries packet with
  | none => exact ⟨absent, rfl⟩
  | some slot =>
    refine ⟨?_, ?_⟩
    · intro i here
      have kept := (reliableRelease_pending (by rw [here]; exact nonzero)).2
      simp only [kept] at here
      exact absent i here
    · have outcome : (reliableRoutingReport codec packet (entries slot).outcome).outcome.id = (entries slot).id := by
        rw [reliableRoutingReport_outcome]
        rfl
      simp [outcome, absent slot]

theorem reliableOnRouting_answer (codec : Codec) {entries : ReliableTable cfg} {packet : Packet} {id : UInt32}
    {slot : ReliableSlot cfg} (answer : answers nodeId id packet = true) (nonzero : id ≠ 0)
    (here : (entries slot).id = id) (only : ∀ i, (entries i).id = id → i = slot) :
    reliableOnRouting codec nodeId entries packet =
      (reliableRelease entries slot, some (reliableRoutingReport codec packet (entries slot).outcome)) := by
  simp only [answers, Bool.and_eq_true, decide_eq_true_eq] at answer
  obtain ⟨⟨port, toUs⟩, request⟩ := answer
  have found : reliableRoutingSlot nodeId entries packet = some slot := by
    rw [reliableRoutingSlot, if_neg (by simp [port, toUs, request, nonzero])]
    cases search : findSlot entries (fun entry => entry.id = packet.requestId) with
    | none => simpa [here, request] using findSlot_eq_none search slot
    | some i =>
      have at_ : (entries i).id = packet.requestId := by simpa using findSlot_eq_some search
      rw [only i (at_.trans request)]
  rw [reliableOnRouting, found]

/-! ## Where an id stands -/

def SendRace.Absent (st : SendRace cfg) (id : UInt32) : Prop :=
  (∀ i, (st.entries i).id ≠ id) ∧ st.outcomes id = []

def SendRace.Pending (st : SendRace cfg) (id : UInt32) (outcome : ReliableOutcome) : Prop :=
  (∃ slot, (st.entries slot).id = id ∧ (st.entries slot).outcome = outcome ∧
    ∀ i, (st.entries i).id = id → i = slot) ∧ st.outcomes id = []

def SendRace.Settled (st : SendRace cfg) (id : UInt32) (report : ReliableReport) : Prop :=
  (∀ i, (st.entries i).id ≠ id) ∧ st.outcomes id = [report]

theorem SendRace.outcomes_receive (st : SendRace cfg) (id : UInt32) (entries : ReliableTable cfg)
    (report : Option ReliableReport) :
    SendRace.outcomes { st with entries := entries, outbox := st.outbox ++ report.toList } id =
      st.outcomes id ++ report.toList.filter (fun report => report.outcome.id = id) := by
  simp only [SendRace.outcomes, ← List.append_assoc, List.filter_append]

theorem SendRace.receive_eq {st next : SendRace cfg} {packet : Packet}
    (taken : st.step codec nodeId local_ wire (.receive packet) = some next) :
    next =
      { st with
        entries := (reliableOnRouting codec nodeId st.entries packet).1
        outbox := st.outbox ++ (reliableOnRouting codec nodeId st.entries packet).2.toList } :=
  (Option.some.inj taken).symm

def RaceLabel.quiet : RaceLabel → Bool
  | .track _ _ => false
  | .receive _ => false
  | _ => true

theorem SendRace.emit_perm {st next : SendRace cfg} {position : Nat} (id : UInt32)
    (taken : st.step codec nodeId local_ wire (.emit position) = some next) :
    next.entries = st.entries ∧ (next.phase = .returned ↔ st.phase = .returned) ∧
      (next.outcomes id).Perm (st.outcomes id) := by
  simp only [SendRace.step, Option.map_eq_some_iff] at taken
  obtain ⟨report, there, same⟩ := taken
  subst same
  refine ⟨rfl, Iff.rfl, ?_⟩
  have split : st.outbox = st.outbox.take position ++ report :: st.outbox.drop (position + 1) := by
    rw [← (List.getElem?_eq_some_iff.mp there).2, List.getElem_cons_drop, List.take_append_drop]
  have moved : (report :: (st.outbox.take position ++ st.outbox.drop (position + 1))).Perm
      (st.outbox.take position ++ report :: st.outbox.drop (position + 1)) := List.perm_middle.symm
  rw [← split] at moved
  apply List.Perm.filter
  rw [List.eraseIdx_eq_take_drop_succ, List.append_assoc]
  exact List.Perm.append_left _ moved

theorem SendRace.quiet_step {st next : SendRace cfg} {label : RaceLabel} (quiet : label.quiet = true) (id : UInt32)
    (taken : st.step codec nodeId local_ wire label = some next) :
    next.entries = st.entries ∧ (next.phase = .returned ↔ st.phase = .returned) ∧
      (next.outcomes id).Perm (st.outcomes id) := by
  cases label with
  | build =>
    simp only [SendRace.step] at taken
    split_ifs at taken with phase
    cases taken
    exact ⟨rfl, by simp [phase], List.Perm.refl _⟩
  | goOnAir =>
    simp only [SendRace.step] at taken
    split_ifs at taken with phase
    cases taken
    exact ⟨rfl, by simp [phase], List.Perm.refl _⟩
  | complete =>
    simp only [SendRace.step] at taken
    split_ifs at taken with phase
    cases taken
    exact ⟨rfl, by simp [phase], List.Perm.refl _⟩
  | emit position => exact SendRace.emit_perm id taken
  | track => cases quiet
  | receive => cases quiet

theorem SendRace.receive_absent {st next : SendRace cfg} {packet : Packet} {id : UInt32} (nonzero : id ≠ 0)
    (absent : ∀ i, (st.entries i).id ≠ id)
    (taken : st.step codec nodeId local_ wire (.receive packet) = some next) :
    (∀ i, (next.entries i).id ≠ id) ∧ next.phase = st.phase ∧ next.outcomes id = st.outcomes id := by
  obtain ⟨stillAbsent, none⟩ := reliableOnRouting_absent codec nodeId packet absent nonzero
  rw [SendRace.receive_eq taken]
  refine ⟨stillAbsent, rfl, ?_⟩
  rw [SendRace.outcomes_receive, none, List.append_nil]

theorem SendRace.absent_before {st next : SendRace cfg} {labels : List RaceLabel} {id : UInt32} (nonzero : id ≠ 0)
    (start : st.Absent id) (done : Transition.run (SendRace.step codec nodeId local_ wire) st labels = some next)
    (notYet : next.phase ≠ .returned) : next.Absent id := by
  have kept : ∀ (st : SendRace cfg) (label : RaceLabel) (next : SendRace cfg),
      (st.phase ≠ .returned → st.Absent id) → True → st.step codec nodeId local_ wire label = some next →
      (next.phase ≠ .returned → next.Absent id) := by
    intro st label next before _ taken later
    by_cases quiet : label.quiet = true
    · obtain ⟨entries, phase, outcomes⟩ := SendRace.quiet_step quiet id taken
      obtain ⟨absent, empty⟩ := before fun returned => later (phase.mpr returned)
      rw [empty] at outcomes
      exact ⟨by rw [entries]; exact absent, List.perm_nil.mp outcomes⟩
    · cases label with
      | track now rand =>
        simp only [SendRace.step] at taken
        split_ifs at taken
        cases taken
        exact False.elim (later rfl)
      | receive packet =>
        have phase : next.phase = st.phase := by rw [SendRace.receive_eq taken]
        obtain ⟨absent, empty⟩ := before (by rw [← phase]; exact later)
        obtain ⟨stillAbsent, -, outcomes⟩ := SendRace.receive_absent nonzero absent taken
        exact ⟨stillAbsent, outcomes.trans empty⟩
      | build => exact False.elim (quiet rfl)
      | goOnAir => exact False.elim (quiet rfl)
      | complete => exact False.elim (quiet rfl)
      | emit => exact False.elim (quiet rfl)
  exact Transition.run_invariant kept (fun _ => start) (Transition.guarded_true st labels) done notYet

theorem SendRace.receive_settles {st next : SendRace cfg} {packet : Packet} {id : UInt32} {outcome : ReliableOutcome}
    (nonzero : id ≠ 0) (answer : answers nodeId id packet = true) (pending : st.Pending id outcome)
    (taken : st.step codec nodeId local_ wire (.receive packet) = some next) :
    next.Settled id (reliableRoutingReport codec packet outcome) := by
  obtain ⟨⟨slot, here, contents, only⟩, empty⟩ := pending
  have settled := reliableOnRouting_answer codec answer nonzero here only
  have named : (reliableRoutingReport codec packet outcome).outcome.id = id := by
    rw [reliableRoutingReport_outcome, ← contents]
    exact here
  rw [SendRace.receive_eq taken]
  constructor
  · rw [settled]
    intro i same
    obtain ⟨other, kept⟩ := reliableRelease_pending (by rw [same]; exact nonzero)
    simp only [kept] at same
    exact other (only i same)
  · rw [SendRace.outcomes_receive, empty, settled, contents]
    simp [named]

theorem SendRace.receive_pending {st next : SendRace cfg} {packet : Packet} {id : UInt32} {outcome : ReliableOutcome}
    (nonzero : id ≠ 0) (other : answers nodeId id packet = false) (pending : st.Pending id outcome)
    (taken : st.step codec nodeId local_ wire (.receive packet) = some next) : next.Pending id outcome := by
  obtain ⟨⟨slot, here, contents, only⟩, empty⟩ := pending
  obtain ⟨same, others, none⟩ := reliableOnRouting_other codec st.entries packet other
  have kept := same slot here nonzero
  rw [SendRace.receive_eq taken]
  constructor
  · refine ⟨slot, (congrArg ReliableEntry.id kept).trans here, (congrArg ReliableEntry.outcome kept).trans contents, ?_⟩
    intro i at_
    exact only i (others i nonzero at_)
  · rw [SendRace.outcomes_receive, empty, none]
    rfl

theorem SendRace.absent_after {st last : SendRace cfg} {labels : List RaceLabel} {id : UInt32} (nonzero : id ≠ 0)
    (returned : st.phase = .returned) (absent : ∀ i, (st.entries i).id ≠ id)
    (done : Transition.run (SendRace.step codec nodeId local_ wire) st labels = some last) :
    (∀ i, (last.entries i).id ≠ id) ∧ (last.outcomes id).Perm (st.outcomes id) := by
  have kept : ∀ (now : SendRace cfg) (label : RaceLabel) (next : SendRace cfg),
      now.phase = .returned ∧ (∀ i, (now.entries i).id ≠ id) ∧ (now.outcomes id).Perm (st.outcomes id) → True →
      now.step codec nodeId local_ wire label = some next →
      next.phase = .returned ∧ (∀ i, (next.entries i).id ≠ id) ∧ (next.outcomes id).Perm (st.outcomes id) := by
    intro now label next ⟨phase, gone, outcomes⟩ _ taken
    by_cases quiet : label.quiet = true
    · obtain ⟨entries, phaseKept, outcomesKept⟩ := SendRace.quiet_step quiet id taken
      exact ⟨phaseKept.mpr phase, by rw [entries]; exact gone, outcomesKept.trans outcomes⟩
    · cases label with
      | track now rand => simp [SendRace.step, phase] at taken
      | receive packet =>
        obtain ⟨stillGone, phaseKept, outcomesKept⟩ := SendRace.receive_absent nonzero gone taken
        exact ⟨phaseKept.trans phase, stillGone, by rw [outcomesKept]; exact outcomes⟩
      | build => exact False.elim (quiet rfl)
      | goOnAir => exact False.elim (quiet rfl)
      | complete => exact False.elim (quiet rfl)
      | emit => exact False.elim (quiet rfl)
  exact (Transition.run_invariant kept ⟨returned, absent, List.Perm.refl _⟩
    (Transition.guarded_true st labels) done).2

theorem SendRace.pending_after {st last : SendRace cfg} {labels : List RaceLabel} {id : UInt32}
    {outcome : ReliableOutcome} (nonzero : id ≠ 0) (returned : st.phase = .returned) (pending : st.Pending id outcome)
    (done : Transition.run (SendRace.step codec nodeId local_ wire) st labels = some last) :
    match firstAnswer nodeId id labels with
    | none => last.Pending id outcome
    | some packet => last.Settled id (reliableRoutingReport codec packet outcome) := by
  induction labels generalizing st with
  | nil =>
    cases done
    exact pending
  | cons label rest ih =>
    obtain ⟨next, taken, later⟩ := Transition.run_cons_eq_some.mp done
    by_cases quiet : label.quiet = true
    · obtain ⟨entries, phase, outcomes⟩ := SendRace.quiet_step quiet id taken
      have skip : firstAnswer nodeId id (label :: rest) = firstAnswer nodeId id rest := by
        cases label with
        | receive => cases quiet
        | _ => rfl
      obtain ⟨slot, empty⟩ := pending
      rw [empty] at outcomes
      rw [skip]
      apply ih (phase.mpr returned) _ later
      exact ⟨by rw [entries]; exact slot, List.perm_nil.mp outcomes⟩
    · cases label with
      | track now rand => simp [SendRace.step, returned] at taken
      | receive packet =>
        have phase : next.phase = .returned := by
          rw [SendRace.receive_eq taken]
          exact returned
        rw [firstAnswer]
        split_ifs with answer
        · obtain ⟨gone, reported⟩ := SendRace.receive_settles nonzero answer pending taken
          obtain ⟨stillGone, outcomes⟩ := SendRace.absent_after nonzero phase gone later
          rw [reported] at outcomes
          exact ⟨stillGone, List.perm_singleton.mp outcomes⟩
        · have other : answers nodeId id packet = false := by simpa using answer
          exact ih phase (SendRace.receive_pending nonzero other pending taken) later
      | build => exact False.elim (quiet rfl)
      | goOnAir => exact False.elim (quiet rfl)
      | complete => exact False.elim (quiet rfl)
      | emit => exact False.elim (quiet rfl)

theorem SendRace.track_step {st next : SendRace cfg} {now : Int} {rand : UInt32}
    (trackable : reliableTrackable nodeId local_ wire = true) (absent : st.Absent local_.id)
    (taken : st.step codec nodeId local_ wire (.track now rand) = some next) :
    next.phase = .returned ∧
    ((∃ i, (st.entries i).id = 0) → next.Pending local_.id ⟨local_.id, local_.to_, local_.portnum⟩) ∧
    ((¬∃ i, (st.entries i).id = 0) → next.Absent local_.id) := by
  simp only [SendRace.step] at taken
  split_ifs at taken with phase
  cases taken
  obtain ⟨noEntry, noOutcome⟩ := absent
  refine ⟨rfl, ?_, ?_⟩
  · intro ⟨i, free⟩
    cases found : findSlot st.entries (fun entry => entry.id = 0) with
    | none => simpa [free] using findSlot_eq_none found i
    | some slot =>
      have tracked : reliableTrack nodeId st.entries local_ wire now rand =
          Function.update st.entries slot (reliableEntryFor cfg local_ wire now rand) := by
        rw [reliableTrack, reliableTrackSlot, if_pos trackable, found]
      have stored : reliableTrack nodeId st.entries local_ wire now rand slot =
          reliableEntryFor cfg local_ wire now rand := by
        rw [tracked, Function.update_self]
      refine ⟨⟨slot, congrArg ReliableEntry.id stored, congrArg ReliableEntry.outcome stored, ?_⟩, noOutcome⟩
      intro j same
      by_contra other
      have kept : reliableTrack nodeId st.entries local_ wire now rand j = st.entries j := by
        rw [tracked, Function.update_of_ne other]
      exact noEntry j ((congrArg ReliableEntry.id kept).symm.trans same)
  · intro full
    have untracked : reliableTrack nodeId st.entries local_ wire now rand = st.entries := by
      rw [reliableTrack, reliableTrackSlot, if_pos trackable]
      cases found : findSlot st.entries (fun entry => entry.id = 0) with
      | none => rfl
      | some slot => exact False.elim (full ⟨slot, by simpa using findSlot_eq_some found⟩)
    exact ⟨by rw [untracked]; exact noEntry, noOutcome⟩

end

/-- Once the send has returned, its packet counts as acknowledged exactly when a slot was free at the
tracking step and the first answer processed after that step is an acknowledgement. Answers processed
before it, however late after the frame went on air, do not count. -/
theorem send_acked_iff (cfg : Kconfig) (codec : Codec) (nodeId : UInt32) (local_ : Packet) (wire : Octets)
    (entries : ReliableTable cfg) (before after : List RaceLabel) (now : Int) (rand : UInt32)
    {tracking last : SendRace cfg} (trackable : reliableTrackable nodeId local_ wire = true)
    (unused : ∀ i, (entries i).id ≠ local_.id)
    (sent : Transition.run (SendRace.step codec nodeId local_ wire) (SendRace.start entries) before = some tracking)
    (done : Transition.run (SendRace.step codec nodeId local_ wire) tracking (.track now rand :: after) = some last) :
    last.Acked local_.id ↔
      (∃ i, (tracking.entries i).id = 0) ∧
      ∃ packet, firstAnswer nodeId local_.id after = some packet ∧
        reliableRoutingIsAck codec packet.payload = true := by
  have nonzero := reliableTrackable_id trackable
  obtain ⟨next, taken, later⟩ := Transition.run_cons_eq_some.mp done
  have notYet : tracking.phase ≠ .returned := by
    intro returned
    simp [SendRace.step, returned] at taken
  have absent : tracking.Absent local_.id := SendRace.absent_before nonzero ⟨unused, rfl⟩ sent notYet
  obtain ⟨returned, slotFree, tableFull⟩ := SendRace.track_step trackable absent taken
  by_cases free : ∃ i, (tracking.entries i).id = 0
  · have final := SendRace.pending_after nonzero returned (slotFree free) later
    cases answer : firstAnswer nodeId local_.id after with
    | none =>
      rw [answer] at final
      obtain ⟨⟨slot, here, -⟩, -⟩ := final
      constructor
      · intro acked
        exact False.elim (acked.1 slot here)
      · intro ⟨_, packet, impossible, _⟩
        cases impossible
    | some packet =>
      rw [answer] at final
      obtain ⟨gone, outcomes⟩ := final
      constructor
      · intro acked
        refine ⟨free, packet, rfl, ?_⟩
        obtain ⟨outcome, only⟩ := acked.2
        rw [outcomes] at only
        by_contra nak
        simp [reliableRoutingReport, nak] at only
      · intro ⟨_, first, same, acks⟩
        cases same
        refine ⟨gone, ⟨local_.id, local_.to_, local_.portnum⟩, ?_⟩
        rw [outcomes, reliableRoutingReport, if_pos acks]
  · obtain ⟨noEntry, noOutcome⟩ := tableFull free
    obtain ⟨-, outcomes⟩ := SendRace.absent_after nonzero returned noEntry later
    rw [noOutcome] at outcomes
    constructor
    · intro acked
      obtain ⟨outcome, only⟩ := acked.2
      rw [List.perm_nil.mp outcomes] at only
      cases only
    · intro ⟨present, _⟩
      exact False.elim (free present)

def answerToGreeting : Packet :=
  { from_ := 0x22, to_ := 0x11, id := 1, portnum := PORT_ROUTING, payload := [0x18, 0x00], requestId := 7 }

theorem send_acked_iff_inOrder :
    ∃ tracking last, Transition.run (SendRace.step (dataCodec fun _ _ _ => 0) 0x11 greeting [1])
        (SendRace.start (reliableReset smallKconfig)) [.build, .goOnAir, .complete] = some tracking ∧
      Transition.run (SendRace.step (dataCodec fun _ _ _ => 0) 0x11 greeting [1]) tracking
        [.track 0 0, .receive answerToGreeting, .emit 0] = some last ∧ last.Acked 7 := by
  refine ⟨_, _, rfl, rfl, ?_⟩
  exact (send_acked_iff smallKconfig (dataCodec fun _ _ _ => 0) 0x11 greeting [1] (reliableReset smallKconfig)
    [.build, .goOnAir, .complete] [.receive answerToGreeting, .emit 0] 0 0 (by decide) (by decide) rfl rfl).mpr
    ⟨⟨⟨0, by decide⟩, rfl⟩, answerToGreeting, by decide, by decide⟩

/-- The answer is processed while the transmit still blocks: the entry stored afterwards waits for an
acknowledgement that has already been there, and no outcome is on its way. -/
theorem send_ack_lost :
    ∃ last, Transition.run (SendRace.step (dataCodec fun _ _ _ => 0) 0x11 greeting [1])
        (SendRace.start (reliableReset smallKconfig))
        [.build, .goOnAir, .receive answerToGreeting, .complete, .track 0 0] = some last ∧
      last.phase = .returned ∧ reliableRoutingIsAck (dataCodec fun _ _ _ => 0) answerToGreeting.payload = true ∧
      answers 0x11 7 answerToGreeting = true ∧ (∃ i, (last.entries i).id = 7) ∧ last.outcomes 7 = [] ∧
      ¬last.Acked 7 := by
  refine ⟨_, rfl, rfl, by decide, by decide, ⟨⟨0, by decide⟩, rfl⟩, by decide, ?_⟩
  intro acked
  exact acked.1 ⟨0, by decide⟩ rfl

end Meshtastic
