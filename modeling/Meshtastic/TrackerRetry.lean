import Meshtastic.Tracker

/-! Bounded, faithful retransmission. A rule on histories says when an entry may be retransmitted,
released and reported; every run of the tracker obeys it. -/

namespace Meshtastic
open Bytes

def TrackerEvent.isAttempt (tag : Nat) : TrackerEvent → Bool
  | .retransmitted t _ _ _ _ _ _ => t = tag
  | _ => false

def attempts (history : List TrackerEvent) (tag : Nat) : Nat := history.countP (TrackerEvent.isAttempt tag)

/-- When the entry falls due next, as its last tracking or retransmission set it. -/
def dueOf (tag : Nat) : List TrackerEvent → Option Int
  | [] => none
  | .tracked t entry :: older => if t = tag then some entry.dueMs else dueOf tag older
  | .retransmitted t _ _ _ _ nextDue _ :: older => if t = tag then some nextDue else dueOf tag older
  | _ :: older => dueOf tag older

/-- What each event requires of the events before it. -/
def RetryRule (limit : Nat) : TrackerEvent → List TrackerEvent → Prop
  | .tracked tag _, older => attempts older tag = 0
  | .routed _, _ => True
  | .retransmitted tag id wire now due _ _, older =>
    (∃ entry, .tracked tag entry ∈ older ∧ id = entry.id ∧ wire = entry.wire) ∧ dueOf tag older = some due ∧
      due ≤ now ∧ (∀ report, .released tag report ∉ older) ∧ attempts older tag < limit
  | .released tag report, older =>
    (∃ entry, .tracked tag entry ∈ older ∧ report.outcome = entry.outcome) ∧
      (∀ other, .released tag other ∉ older) ∧ (report.err = some .etimedout → attempts older tag = limit)
  | .reported tag report, older => .released tag report ∈ older ∧ ∀ other, .reported tag other ∉ older

/-! ## What lawful histories look like -/

section
variable {limit : Nat} {history newer older : List TrackerEvent} {tag : Nat} {report : ReliableReport}

theorem attempts_cons_other {event : TrackerEvent} (other : event.isAttempt tag = false) :
    attempts (event :: history) tag = attempts history tag := by
  simp [attempts, other]

theorem attempts_append : attempts (newer ++ older) tag = attempts newer tag + attempts older tag :=
  List.countP_append

theorem attempts_le (lawful : History.Lawful (RetryRule limit) history) (tag : Nat) :
    attempts history tag ≤ limit := by
  induction history with
  | nil => exact Nat.zero_le limit
  | cons event older ih =>
    obtain ⟨may, before⟩ := lawful
    by_cases attempt : event.isAttempt tag = true
    · cases event with
      | retransmitted t id wire now due nextDue queued =>
        have same : t = tag := by simpa [TrackerEvent.isAttempt] using attempt
        subst t
        have counted : attempts (.retransmitted tag id wire now due nextDue queued :: older) tag =
            attempts older tag + 1 := by
          simp [attempts, TrackerEvent.isAttempt]
        have room : attempts older tag < limit := may.2.2.2.2
        omega
      | tracked => simp [TrackerEvent.isAttempt] at attempt
      | routed => simp [TrackerEvent.isAttempt] at attempt
      | released => simp [TrackerEvent.isAttempt] at attempt
      | reported => simp [TrackerEvent.isAttempt] at attempt
    · rw [attempts_cons_other (by simpa using attempt)]
      exact ih before

theorem released_once (lawful : History.Lawful (RetryRule limit) history) {other : ReliableReport}
    (first : .released tag report ∈ history) (second : .released tag other ∈ history) : report = other := by
  induction history with
  | nil => exact False.elim (List.not_mem_nil first)
  | cons event older ih =>
    obtain ⟨may, before⟩ := lawful
    rcases List.mem_cons.mp first with firstHere | firstOlder
    · rcases List.mem_cons.mp second with secondHere | secondOlder
      · have same := firstHere.trans secondHere.symm
        cases same
        rfl
      · rw [← firstHere] at may
        exact False.elim (may.2.1 other secondOlder)
    · rcases List.mem_cons.mp second with secondHere | secondOlder
      · rw [← secondHere] at may
        exact False.elim (may.2.1 report firstOlder)
      · exact ih before firstOlder secondOlder

theorem released_of_reported (lawful : History.Lawful (RetryRule limit) history)
    (member : .reported tag report ∈ history) : .released tag report ∈ history := by
  obtain ⟨newer, older, same, may⟩ := History.lawful_mem lawful member
  rw [same]
  exact List.mem_append_right newer (List.mem_cons_of_mem _ may.1)

theorem attempts_of_expired (lawful : History.Lawful (RetryRule limit) history)
    (expired : report.err = some .etimedout) (member : .released tag report ∈ history) :
    attempts history tag = limit := by
  have bound := attempts_le lawful tag
  obtain ⟨newer, older, same, may⟩ := History.lawful_mem lawful member
  have used : attempts older tag = limit := may.2.2 expired
  have counted : attempts history tag = attempts newer tag + limit := by
    calc attempts history tag
      _ = attempts newer tag + attempts (.released tag report :: older) tag := by rw [same, attempts_append]
      _ = attempts newer tag + limit := by rw [attempts_cons_other rfl, used]
  omega

end

/-! ## The table follows the history -/

/-- The entry of a pending slot is the one tracked under its tag, less its attempts so far. -/
structure Follows (limit : Nat) (history : List TrackerEvent) (tag : Nat) (entry : ReliableEntry) : Prop where
  origin : ∃ first, .tracked tag first ∈ history ∧ first.outcome = entry.outcome ∧ first.wire = entry.wire
  open_ : ∀ report, .released tag report ∉ history
  counted : attempts history tag + entry.attemptsLeft = limit
  due : dueOf tag history = some entry.dueMs

def TrackerEvent.touches : TrackerEvent → Option Nat
  | .tracked tag _ => some tag
  | .retransmitted tag _ _ _ _ _ _ => some tag
  | .released tag _ => some tag
  | _ => none

theorem Follows.cons {limit : Nat} {history : List TrackerEvent} {tag : Nat} {entry : ReliableEntry}
    (follows : Follows limit history tag entry) {event : TrackerEvent} (other : event.touches ≠ some tag) :
    Follows limit (event :: history) tag entry := by
  obtain ⟨⟨first, tracked, same⟩, notReleased, counted, due⟩ := follows
  refine ⟨⟨first, List.mem_cons_of_mem _ tracked, same⟩, ?_, ?_, ?_⟩
  · intro report member
    rcases List.mem_cons.mp member with here | before
    · rw [← here] at other
      exact other rfl
    · exact notReleased report before
  · rw [attempts_cons_other, counted]
    cases event with
    | retransmitted t => simpa [TrackerEvent.isAttempt, TrackerEvent.touches] using other
    | tracked => rfl
    | routed => rfl
    | released => rfl
    | reported => rfl
  · cases event with
    | tracked t first' =>
      have different : t ≠ tag := by simpa [TrackerEvent.touches] using other
      rw [dueOf, if_neg different, due]
    | retransmitted t =>
      have different : t ≠ tag := by simpa [TrackerEvent.touches] using other
      rw [dueOf, if_neg different, due]
    | routed => exact due
    | released => exact due
    | reported => exact due

theorem attempts_eq_zero {history : List TrackerEvent} {tag : Nat}
    (absent : ∀ event ∈ history, event.touches ≠ some tag) : attempts history tag = 0 := by
  apply List.countP_eq_zero.mpr
  intro event member attempt
  cases event with
  | retransmitted t id wire now due nextDue queued =>
    have same : t = tag := by simpa [TrackerEvent.isAttempt] using attempt
    exact absent _ member (by rw [same]; rfl)
  | tracked => simp [TrackerEvent.isAttempt] at attempt
  | routed => simp [TrackerEvent.isAttempt] at attempt
  | released => simp [TrackerEvent.isAttempt] at attempt
  | reported => simp [TrackerEvent.isAttempt] at attempt

theorem Follows.start {limit : Nat} {history : List TrackerEvent} {tag : Nat} {entry : ReliableEntry}
    (unused : ∀ event ∈ history, event.touches ≠ some tag) (left : entry.attemptsLeft = limit) :
    Follows limit (.tracked tag entry :: history) tag entry := by
  refine ⟨⟨entry, List.mem_cons_self, rfl, rfl⟩, ?_, ?_, ?_⟩
  · intro report member
    rcases List.mem_cons.mp member with same | before
    · cases same
    · exact unused _ before rfl
  · rw [attempts_cons_other rfl, attempts_eq_zero unused, left, Nat.zero_add]
  · simp [dueOf]

theorem Follows.attempt {limit : Nat} {history : List TrackerEvent} {tag : Nat} {entry : ReliableEntry}
    (follows : Follows limit history tag entry) (left : entry.attemptsLeft ≠ 0) {id : UInt32} {wire : Octets}
    {now due nextDue : Int} {queued : Bool} :
    Follows limit (.retransmitted tag id wire now due nextDue queued :: history) tag
      { entry with attemptsLeft := entry.attemptsLeft - 1, dueMs := nextDue } := by
  obtain ⟨⟨first, tracked, same⟩, notReleased, counted, -⟩ := follows
  refine ⟨⟨first, List.mem_cons_of_mem _ tracked, same⟩, ?_, ?_, ?_⟩
  · intro report member
    rcases List.mem_cons.mp member with here | before
    · cases here
    · exact notReleased report before
  · have more : attempts (.retransmitted tag id wire now due nextDue queued :: history) tag =
        attempts history tag + 1 := by
      simp [attempts, TrackerEvent.isAttempt]
    simp only [more]
    omega
  · simp [dueOf]

structure Tracker.Sound {cfg : Kconfig} (st : Tracker cfg) : Prop where
  lawful : History.Lawful (RetryRule cfg.reliableRetransmissions) st.history
  pending : ∀ i, (st.entries i).id ≠ 0 →
    Follows cfg.reliableRetransmissions st.history (st.owner i) (st.entries i)
  distinct : ∀ i j, (st.entries i).id ≠ 0 → (st.entries j).id ≠ 0 → st.owner i = st.owner j → i = j
  fresh : ∀ event ∈ st.history, ∀ tag, event.touches = some tag → tag < st.nextTag
  waiting : ∀ item ∈ st.outbox, .released item.1 item.2 ∈ st.history ∧ ∀ other, .reported item.1 other ∉ st.history
  once : (st.outbox.map Prod.fst).Nodup

section
variable {cfg : Kconfig} {codec : Codec} {nodeId : UInt32} {allowed : Tracker cfg → TrackerLabel cfg → Prop}
  {st : Tracker cfg}

theorem Tracker.Sound.owner_lt (sound : st.Sound) {i : ReliableSlot cfg} (pending : (st.entries i).id ≠ 0) :
    st.owner i < st.nextTag := by
  obtain ⟨first, tracked, -⟩ := (sound.pending i pending).origin
  exact sound.fresh _ tracked _ rfl

theorem Tracker.Sound.others_follow (sound : st.Sound) {i j : ReliableSlot cfg} (pending : (st.entries i).id ≠ 0)
    (busy : (st.entries j).id ≠ 0) (other : j ≠ i) {event : TrackerEvent}
    (about : event.touches = some (st.owner i)) :
    Follows cfg.reliableRetransmissions (event :: st.history) (st.owner j) (st.entries j) := by
  apply (sound.pending j busy).cons
  rw [about]
  intro same
  exact other (sound.distinct j i busy pending (Option.some.inj same).symm)

theorem Tracker.Sound.fresh_cons (sound : st.Sound) {event : TrackerEvent} {bound : Nat} (grows : st.nextTag ≤ bound)
    (below : ∀ tag, event.touches = some tag → tag < bound) :
    ∀ other ∈ event :: st.history, ∀ tag, other.touches = some tag → tag < bound := by
  intro other member tag touched
  rcases List.mem_cons.mp member with here | before
  · rw [here] at touched
    exact below tag touched
  · exact Nat.lt_of_lt_of_le (sound.fresh other before tag touched) grows

theorem Tracker.Sound.waiting_cons (sound : st.Sound) {event : TrackerEvent}
    (quiet : ∀ tag report, event ≠ .reported tag report) :
    ∀ item ∈ st.outbox, .released item.1 item.2 ∈ event :: st.history ∧
      ∀ other, .reported item.1 other ∉ event :: st.history := by
  intro item member
  obtain ⟨released, unreported⟩ := sound.waiting item member
  refine ⟨List.mem_cons_of_mem _ released, ?_⟩
  intro other again
  rcases List.mem_cons.mp again with here | before
  · exact quiet item.1 other here.symm
  · exact unreported other before

theorem Tracker.Sound.release (sound : st.Sound) {i : ReliableSlot cfg} {report : ReliableReport}
    (pending : (st.entries i).id ≠ 0) (outcome : report.outcome = (st.entries i).outcome)
    (spent : report.err = some .etimedout → (st.entries i).attemptsLeft = 0) :
    Tracker.Sound
      { st with
        entries := reliableRelease st.entries i
        outbox := st.outbox ++ [(st.owner i, report)]
        history := .released (st.owner i) report :: st.history } := by
  have follows := sound.pending i pending
  refine ⟨⟨⟨?_, follows.open_, ?_⟩, sound.lawful⟩, ?_, ?_, ?_, ?_, ?_⟩
  · obtain ⟨first, tracked, same, -⟩ := follows.origin
    exact ⟨first, tracked, outcome.trans same.symm⟩
  · intro expired
    have counted := follows.counted
    rw [spent expired] at counted
    exact counted
  · intro j busy
    obtain ⟨other, same⟩ := reliableRelease_pending busy
    simp only [same] at busy ⊢
    exact sound.others_follow pending busy other rfl
  · intro j k busyJ busyK equal
    simp only [(reliableRelease_pending busyJ).2] at busyJ
    simp only [(reliableRelease_pending busyK).2] at busyK
    exact sound.distinct j k busyJ busyK equal
  · apply sound.fresh_cons (Nat.le_refl _)
    intro tag touched
    cases touched
    exact sound.owner_lt pending
  · intro item member
    rcases List.mem_append.mp member with before | here
    · exact sound.waiting_cons (by intro tag other same; cases same) item before
    · rw [List.mem_singleton.mp here]
      refine ⟨List.mem_cons_self, ?_⟩
      intro other again
      rcases List.mem_cons.mp again with same | before
      · cases same
      · exact follows.open_ other (released_of_reported sound.lawful before)
  · simp only [List.map_append, List.map_cons, List.map_nil]
    refine List.nodup_append.mpr ⟨sound.once, List.nodup_singleton _, ?_⟩
    intro tag member tag' here equal
    rw [List.mem_singleton.mp here] at equal
    obtain ⟨item, inOutbox, same⟩ := List.mem_map.mp member
    have released := (sound.waiting item inOutbox).1
    rw [same, equal] at released
    exact follows.open_ _ released

theorem Tracker.Sound.ignore (sound : st.Sound) (packet : Packet) :
    Tracker.Sound { st with history := .routed packet :: st.history } := by
  refine ⟨⟨trivial, sound.lawful⟩, ?_, sound.distinct, ?_, ?_, sound.once⟩
  · intro i pending
    exact (sound.pending i pending).cons (by simp [TrackerEvent.touches])
  · apply sound.fresh_cons (Nat.le_refl _)
    intro tag touched
    cases touched
  · exact sound.waiting_cons (by intro tag other same; cases same)

theorem Tracker.Sound.track (sound : st.Sound) {i : ReliableSlot cfg} {entry : ReliableEntry}
    (left : entry.attemptsLeft = cfg.reliableRetransmissions) :
    Tracker.Sound
      { st with
        entries := Function.update st.entries i entry
        owner := Function.update st.owner i st.nextTag
        nextTag := st.nextTag + 1
        history := .tracked st.nextTag entry :: st.history } := by
  have unused : ∀ event ∈ st.history, event.touches ≠ some st.nextTag := by
    intro event member touched
    exact Nat.lt_irrefl _ (sound.fresh event member st.nextTag touched)
  have older : ∀ j, j ≠ i → (Function.update st.entries i entry j).id ≠ 0 →
      (st.entries j).id ≠ 0 ∧ Function.update st.entries i entry j = st.entries j ∧
        Function.update st.owner i st.nextTag j = st.owner j := by
    intro j other pending
    rw [Function.update_of_ne other] at pending ⊢
    rw [Function.update_of_ne other]
    exact ⟨pending, rfl, rfl⟩
  refine ⟨⟨attempts_eq_zero unused, sound.lawful⟩, ?_, ?_, ?_, ?_, sound.once⟩
  · intro j pending
    by_cases here : j = i
    · subst j
      simp only [Function.update_self]
      exact Follows.start unused left
    · obtain ⟨pendingBefore, sameEntry, sameOwner⟩ := older j here pending
      have bound := sound.owner_lt pendingBefore
      simp only [sameEntry, sameOwner]
      apply (sound.pending j pendingBefore).cons
      simp only [TrackerEvent.touches, ne_eq, Option.some.injEq]
      omega
  · intro j k pendingJ pendingK equal
    by_cases hereJ : j = i
    · by_cases hereK : k = i
      · rw [hereJ, hereK]
      · obtain ⟨pendingBefore, -, sameOwner⟩ := older k hereK pendingK
        have bound := sound.owner_lt pendingBefore
        simp only [hereJ, Function.update_self, sameOwner] at equal
        omega
    · obtain ⟨pendingBeforeJ, -, sameOwnerJ⟩ := older j hereJ pendingJ
      by_cases hereK : k = i
      · have bound := sound.owner_lt pendingBeforeJ
        simp only [hereK, Function.update_self, sameOwnerJ] at equal
        omega
      · obtain ⟨pendingBeforeK, -, sameOwnerK⟩ := older k hereK pendingK
        simp only [sameOwnerJ, sameOwnerK] at equal
        exact sound.distinct j k pendingBeforeJ pendingBeforeK equal
  · apply sound.fresh_cons (Nat.le_succ _)
    intro tag touched
    cases touched
    exact Nat.lt_succ_self _
  · exact sound.waiting_cons (by intro tag other same; cases same)

theorem Tracker.Sound.retransmit (sound : st.Sound) {i : ReliableSlot cfg} {now nextDue : Int} {queued : Bool}
    (pending : (st.entries i).id ≠ 0) (due : (st.entries i).dueMs ≤ now)
    (left : (st.entries i).attemptsLeft ≠ 0) :
    Tracker.Sound
      { st with
        entries := Function.update st.entries i
          { st.entries i with attemptsLeft := (st.entries i).attemptsLeft - 1, dueMs := nextDue }
        history := .retransmitted (st.owner i) (st.entries i).id (st.entries i).wire now
          (st.entries i).dueMs nextDue queued :: st.history } := by
  obtain ⟨⟨first, tracked, sameOutcome, sameWire⟩, notReleased, counted, dueNow⟩ := sound.pending i pending
  have busy : ∀ j, (Function.update st.entries i
      { st.entries i with attemptsLeft := (st.entries i).attemptsLeft - 1, dueMs := nextDue } j).id ≠ 0 →
      (st.entries j).id ≠ 0 := by
    intro j pendingJ
    by_cases here : j = i
    · rw [here]
      exact pending
    · rw [Function.update_of_ne here] at pendingJ
      exact pendingJ
  refine ⟨⟨⟨⟨first, tracked, ?_, sameWire.symm⟩, dueNow, due, notReleased, by omega⟩, sound.lawful⟩,
    ?_, ?_, ?_, ?_, sound.once⟩
  · exact (congrArg ReliableOutcome.id sameOutcome).symm
  · intro j pendingJ
    by_cases here : j = i
    · subst j
      simp only [Function.update_self]
      exact (sound.pending i pending).attempt left
    · simp only [Function.update_of_ne here]
      exact sound.others_follow pending (busy j pendingJ) here rfl
  · intro j k pendingJ pendingK equal
    exact sound.distinct j k (busy j pendingJ) (busy k pendingK) equal
  · apply sound.fresh_cons (Nat.le_refl _)
    intro tag touched
    cases touched
    exact sound.owner_lt pending
  · exact sound.waiting_cons (by intro tag other same; cases same)

theorem Tracker.Sound.report (sound : st.Sound) {before after : List (Nat × ReliableReport)} {tag : Nat}
    {report : ReliableReport} (waiting : st.outbox = before ++ (tag, report) :: after) :
    Tracker.Sound { st with outbox := before ++ after, history := .reported tag report :: st.history } := by
  have here : (tag, report) ∈ st.outbox := by
    rw [waiting]
    exact List.mem_append_right before List.mem_cons_self
  have once := sound.once
  rw [waiting, List.map_append, List.map_cons, List.nodup_middle, List.nodup_cons] at once
  refine ⟨⟨sound.waiting _ here, sound.lawful⟩, ?_, sound.distinct, ?_, ?_, ?_⟩
  · intro i pending
    exact (sound.pending i pending).cons (by simp [TrackerEvent.touches])
  · apply sound.fresh_cons (Nat.le_refl _)
    intro other touched
    cases touched
  · intro item member
    have inOutbox : item ∈ st.outbox := by
      rw [waiting]
      exact ((List.sublist_cons_self _ after).append_left before).subset member
    have different : item.1 ≠ tag := by
      intro same
      apply once.1
      rw [← List.map_append]
      exact List.mem_map.mpr ⟨item, member, same⟩
    obtain ⟨released, unreported⟩ := sound.waiting item inOutbox
    refine ⟨List.mem_cons_of_mem _ released, ?_⟩
    intro other again
    rcases List.mem_cons.mp again with same | old
    · cases same
      exact different rfl
    · exact unreported other old
  · rw [List.map_append]
    exact once.2

theorem Tracker.Sound.change (st next : Tracker cfg) (sound : st.Sound)
    (change : Tracker.Change codec nodeId allowed st next) : next.Sound := by
  cases change with
  | tracked i packet wire now rand _ _ _ => exact sound.track rfl
  | ignored packet => exact sound.ignore packet
  | settled i packet _ found =>
    obtain ⟨-, -, request, matched⟩ := reliableRoutingSlot_eq_some found
    refine (sound.ignore packet).release (i := i) (by rw [matched]; exact request)
      (reliableRoutingReport_outcome codec packet _) ?_
    intro expired
    unfold reliableRoutingReport at expired
    split_ifs at expired
    simp at expired
  | expired i pending spent => exact sound.release pending rfl fun _ => spent
  | retransmitted i now nextDue queued pending due left => exact sound.retransmit pending due left
  | reported before after tag report waiting => exact sound.report waiting

theorem Tracker.empty_sound : (Tracker.empty cfg).Sound where
  lawful := trivial
  pending := fun _ pending => False.elim (pending rfl)
  distinct := fun _ _ pending => False.elim (pending rfl)
  fresh := fun _ member => False.elim (List.not_mem_nil member)
  waiting := fun _ member => False.elim (List.not_mem_nil member)
  once := List.nodup_nil

end

/-- In every run each entry is retransmitted at most the configured number of times, unchanged, never
before it is due nor after it was released; and a timeout is reported for it at most once, only after
exactly that many retransmissions, and never when something else released it. A pass over the slots leaves the table
that `reliable_work_fn` leaves in a node. -/
theorem retransmission_bounded (cfg : Kconfig) (codec : Codec) (nodeId : UInt32)
    (labels : List (TrackerLabel cfg)) {last : Tracker cfg}
    (done : Transition.run (Tracker.step codec nodeId) (Tracker.empty cfg) labels = some last) :
    (∀ tag, attempts last.history tag ≤ cfg.reliableRetransmissions) ∧
    (∀ newer older tag id wire now due nextDue queued,
      last.history = newer ++ .retransmitted tag id wire now due nextDue queued :: older →
      (∃ entry, .tracked tag entry ∈ older ∧ wire = entry.wire) ∧ dueOf tag older = some due ∧ due ≤ now ∧
        ∀ report, .released tag report ∉ older) ∧
    (∀ newer older tag report, last.history = newer ++ .reported tag report :: older →
      report.err = some .etimedout →
      attempts older tag = cfg.reliableRetransmissions ∧
        attempts last.history tag = cfg.reliableRetransmissions ∧
        (∀ other, .reported tag other ∉ newer ∧ .reported tag other ∉ older) ∧
        ∀ other, .released tag other ∈ last.history → other = report) ∧
    ∀ now rand queued, (last.work now rand queued).entries = (reliableWorkFn last.entries now rand).1 := by
  have sound : last.Sound :=
    Tracker.run_invariant Tracker.Sound.change Tracker.empty_sound (Transition.guarded_true _ labels) done
  refine ⟨attempts_le sound.lawful, ?_, ?_, last.work_entries⟩
  · intro newer older tag id wire now due nextDue queued split
    have lawful := sound.lawful
    rw [split] at lawful
    obtain ⟨⟨entry, tracked, -, sameWire⟩, dueNow, inTime, unreleased, -⟩ := History.lawful_at lawful
    exact ⟨⟨entry, tracked, sameWire⟩, dueNow, inTime, unreleased⟩
  · intro newer older tag report split expired
    have lawful := sound.lawful
    rw [split] at lawful
    obtain ⟨released, first⟩ := History.lawful_at lawful
    have inHistory : .released tag report ∈ last.history := by
      rw [split]
      exact List.mem_append_right newer (List.mem_cons_of_mem _ released)
    refine ⟨attempts_of_expired (History.lawful_older lawful).2 expired released,
      attempts_of_expired sound.lawful expired inHistory, ?_, ?_⟩
    · intro other
      refine ⟨?_, first other⟩
      intro again
      obtain ⟨later, between, same⟩ := List.append_of_mem again
      rw [same, List.append_assoc] at lawful
      exact (History.lawful_at lawful).2 report (List.mem_append_right between List.mem_cons_self)
    · intro other member
      exact released_once sound.lawful member inHistory

theorem retransmission_bounded_timeout :
    ∃ last, Transition.run (Tracker.step (dataCodec fun _ _ _ => 0) 0x11) (Tracker.empty smallKconfig)
        [.track greeting [1] 0 0, .work 1000 (fun _ => 0) (fun _ => true),
          .work 2000 (fun _ => 0) (fun _ => true), .report 0] = some last ∧
      attempts last.history 0 = 1 := by
  refine ⟨_, rfl, ?_⟩
  exact ((retransmission_bounded smallKconfig (dataCodec fun _ _ _ => 0) 0x11
    [.track greeting [1] 0 0, .work 1000 (fun _ => 0) (fun _ => true),
      .work 2000 (fun _ => 0) (fun _ => true), .report 0] rfl).2.2.1 [] _ 0 _ rfl rfl).2.1

end Meshtastic
