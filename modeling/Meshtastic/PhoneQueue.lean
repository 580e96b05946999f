import Meshtastic.Lib.Run
import Meshtastic.PhoneApi

/-! What the FromRadio ring is for: a queue of at most `queue_size` frames, open at both ends, and one
held frame beside it. The ring of `meshtastic_phoneapi.c` answers every sequence of calls as this
queue does. -/

namespace Meshtastic
open Bytes

/-! ## The queue -/

/-- The frames in the queue, oldest first, the held frame and the position in the handshake. -/
@[ext]
structure PhoneQueue where
  queued : List ApiFrame := []
  held : Option ApiFrame := none
  cursor : ConfigCursor := {}

inductive PhoneCall where
  | enqueueFromradio (message : FromRadio)
  | popFrame (sources : PhoneSources)
  | pushFrameFront (frame : ApiFrame)
  | currentFrame (sources : PhoneSources)
  | releaseCurrentFrame
  | currentFrameReset
  | reset
  | enqueuePhoneConfig (requestId : UInt32)

inductive PhoneReply where
  | done
  | code (err : Option Errno)
  | frame (taken : Option ApiFrame)
  deriving DecidableEq

/-- A call that ends the life of a held frame. -/
def PhoneCall.dropsHeld : PhoneCall → Bool
  | .releaseCurrentFrame => true
  | .currentFrameReset => true
  | .reset => true
  | .enqueuePhoneConfig _ => true
  | _ => false

section
variable (encode : FromRadio → Option Octets)

namespace PhoneQueue
variable (size : UInt8)

def takeNext (sources : PhoneSources) (q : PhoneQueue) : PhoneQueue × Option ApiFrame :=
  match q.queued with
  | oldest :: rest => ({ q with queued := rest }, some oldest)
  | [] =>
    match nextConfigFrame encode sources size 0 q.cursor with
    | (.ok frame, cursor) => ({ q with cursor := cursor }, some frame)
    | (.error _, cursor) => ({ q with cursor := cursor }, none)

def hold (sources : PhoneSources) (q : PhoneQueue) : PhoneQueue × Option ApiFrame :=
  match q.held with
  | some frame => (q, some frame)
  | none =>
    let taken := q.takeNext encode size sources
    ({ taken.1 with held := taken.2 }, taken.2)

def call (q : PhoneQueue) : PhoneCall → PhoneQueue × PhoneReply
  | .enqueueFromradio message =>
    match encodeFromradioFrame encode message with
    | .error err => (q, .code (some err))
    | .ok frame => ({ q with queued := Deque.pushNewest size.toNat q.queued frame }, .code none)
  | .popFrame sources =>
    let taken := q.takeNext encode size sources
    (taken.1, .frame taken.2)
  | .pushFrameFront frame => ({ q with queued := Deque.pushOldest size.toNat q.queued frame }, .done)
  | .currentFrame sources =>
    let taken := q.hold encode size sources
    (taken.1, .frame taken.2)
  | .releaseCurrentFrame => ({ q with held := none }, .done)
  | .currentFrameReset => ({ q with held := none }, .done)
  | .reset => ({}, .done)
  | .enqueuePhoneConfig requestId => ({ cursor := { state := .myInfo, index := 0, requestId := requestId } }, .done)

end PhoneQueue

/-! ## The ring behind it -/

namespace PhoneApi

def call (api : PhoneApi) : PhoneCall → PhoneApi × PhoneReply
  | .enqueueFromradio message =>
    let result := api.enqueueFromradio encode message
    (result.1, .code result.2)
  | .popFrame sources =>
    let taken := api.popFrame encode sources
    (taken.1, .frame taken.2)
  | .pushFrameFront frame => (api.pushFrameFront frame, .done)
  | .currentFrame sources =>
    let taken := api.currentFrame encode sources
    (taken.1, .frame taken.2)
  | .releaseCurrentFrame => (api.releaseCurrentFrame, .done)
  | .currentFrameReset => (api.currentFrameReset, .done)
  | .reset => (api.reset, .done)
  | .enqueuePhoneConfig requestId => (api.enqueuePhoneConfig requestId, .done)

structure Wellformed (api : PhoneApi) : Prop where
  tail_lt : api.tail.toNat < api.queueSize.toNat
  count_le : api.count.toNat ≤ api.queueSize.toNat
  head_eq : api.head.toNat = (api.tail.toNat + api.count.toNat) % api.queueSize.toNat

/-- The queue a ring stands for. -/
def view (api : PhoneApi) : PhoneQueue :=
  { queued := Deque.contents api.queue api.queueSize.toNat api.tail.toNat api.count.toNat
    held := if api.currentValid then some api.current else none
    cursor := api.cursor }

variable {api : PhoneApi}

theorem Wellformed.room (shape : api.Wellformed) : 0 < api.queueSize.toNat := by
  have := shape.tail_lt
  omega

/-! ### Eight-bit indices -/

private theorem toNat_ofNat_mod (size : UInt8) (value : Nat) (room : 0 < size.toNat) :
    (UInt8.ofNat (value % size.toNat)).toNat = value % size.toNat := by
  have small := Nat.mod_lt value room
  have bound := size.toNat_lt
  rw [UInt8.toNat_ofNat']
  apply Nat.mod_eq_of_lt
  omega

theorem after_toNat (room : 0 < api.queueSize.toNat) (index : UInt8) :
    (api.after index).toNat = Deque.place api.queueSize.toNat index.toNat 1 :=
  toNat_ofNat_mod api.queueSize _ room

theorem before_toNat (room : 0 < api.queueSize.toNat) (index : UInt8) :
    (api.before index).toNat = Deque.before api.queueSize.toNat index.toNat :=
  toNat_ofNat_mod api.queueSize _ room

theorem count_pred {count : UInt8} (some : count ≠ 0) : (count - 1).toNat + 1 = count.toNat := by
  have positive : 1 ≤ count := by
    apply UInt8.le_iff_toNat_le.mpr
    exact Nat.one_le_iff_ne_zero.mpr fun zero => some (UInt8.toNat_inj.mp zero)
  have smaller := UInt8.toNat_sub_of_le count 1 positive
  have nonzero : count.toNat ≠ 0 := fun zero => some (UInt8.toNat_inj.mp zero)
  rw [smaller, UInt8.toNat_one]
  omega

theorem count_succ {count size : UInt8} (room : count.toNat < size.toNat) : (count + 1).toNat = count.toNat + 1 := by
  have bound := size.toNat_lt
  rw [UInt8.toNat_add, UInt8.toNat_one]
  apply Nat.mod_eq_of_lt
  omega

/-! ### The four moves of the ring -/

def withoutOldest (api : PhoneApi) : PhoneApi :=
  { api with tail := api.after api.tail, count := api.count - 1 }

def withoutNewest (api : PhoneApi) : PhoneApi :=
  { api with head := api.before api.head, count := api.count - 1 }

def withNewest (api : PhoneApi) (frame : ApiFrame) : PhoneApi :=
  { api with
    queue := Function.update api.queue api.head.toNat frame
    head := api.after api.head
    count := api.count + 1 }

def withOldest (api : PhoneApi) (frame : ApiFrame) : PhoneApi :=
  { api with
    tail := api.before api.tail
    queue := Function.update api.queue (api.before api.tail).toNat frame
    count := api.count + 1 }

theorem withoutOldest_wellformed (shape : api.Wellformed) (some : api.count ≠ 0) :
    api.withoutOldest.Wellformed ∧ api.withoutOldest.view.queued = api.view.queued.tail ∧
      api.view.queued.head? = Option.some (api.queue api.tail.toNat) := by
  have fewer := count_pred some
  have moved := after_toNat shape.room api.tail
  refine ⟨⟨?_, ?_, ?_⟩, ?_, ?_⟩
  · simp only [withoutOldest, moved]
    exact Deque.place_lt shape.room _ _
  · have bounded := shape.count_le
    simp only [withoutOldest]
    omega
  · simp only [withoutOldest, moved, shape.head_eq]
    change _ = Deque.place _ (Deque.place _ _ 1) _
    rw [Deque.place_place, Nat.add_comm 1, fewer]
    rfl
  · simp only [withoutOldest, view, moved]
    rw [← fewer, Deque.tail_contents _ shape.tail_lt]
  · simp only [view]
    rw [← fewer, Deque.contents_succ_oldest _ shape.tail_lt, List.head?_cons]

theorem withoutNewest_wellformed (shape : api.Wellformed) (some : api.count ≠ 0) :
    api.withoutNewest.Wellformed ∧ api.withoutNewest.view.queued = api.view.queued.dropLast := by
  have fewer := count_pred some
  refine ⟨⟨shape.tail_lt, ?_, ?_⟩, ?_⟩
  · have bounded := shape.count_le
    simp only [withoutNewest]
    omega
  · simp only [withoutNewest]
    rw [before_toNat shape.room, shape.head_eq, ← fewer]
    exact Deque.before_place shape.room
  · simp only [withoutNewest, view]
    rw [← fewer, Deque.dropLast_contents]

theorem withNewest_wellformed (shape : api.Wellformed) (room : api.count.toNat < api.queueSize.toNat)
    (frame : ApiFrame) :
    (api.withNewest frame).Wellformed ∧ (api.withNewest frame).view.queued = api.view.queued ++ [frame] := by
  have more := count_succ room
  refine ⟨⟨shape.tail_lt, ?_, ?_⟩, ?_⟩
  · simp only [withNewest, more]
    omega
  · simp only [withNewest, more]
    rw [after_toNat shape.room, shape.head_eq]
    exact Deque.place_place _ _ _
  · simp only [withNewest, view, more, shape.head_eq]
    exact Deque.contents_push_newest room frame

theorem withOldest_wellformed (shape : api.Wellformed) (room : api.count.toNat < api.queueSize.toNat)
    (frame : ApiFrame) :
    (api.withOldest frame).Wellformed ∧ (api.withOldest frame).view.queued = frame :: api.view.queued := by
  have more := count_succ room
  have moved := before_toNat shape.room api.tail
  refine ⟨⟨?_, ?_, ?_⟩, ?_⟩
  · simp only [withOldest, moved]
    exact Nat.mod_lt _ shape.room
  · simp only [withOldest, more]
    omega
  · simp only [withOldest, more, moved, shape.head_eq]
    exact (Deque.place_before shape.room).symm
  · simp only [withOldest, view, more, moved]
    exact Deque.contents_push_oldest shape.tail_lt room frame

/-! ### The calls -/

@[simp] theorem length_view (api : PhoneApi) : api.view.queued.length = api.count.toNat :=
  Deque.length_contents _ _ _

theorem full_iff (api : PhoneApi) : api.count = api.queueSize ↔ api.view.queued.length = api.queueSize.toNat := by
  rw [length_view, UInt8.toNat_inj]

theorem Wellformed.count_lt (shape : api.Wellformed) (notFull : api.count ≠ api.queueSize) :
    api.count.toNat < api.queueSize.toNat := by
  have different : api.count.toNat ≠ api.queueSize.toNat := fun same => notFull (UInt8.toNat_inj.mp same)
  have bounded := shape.count_le
  omega

theorem Wellformed.nonempty_of_full (shape : api.Wellformed) (full : api.count = api.queueSize) : api.count ≠ 0 := by
  intro zero
  have room := shape.room
  rw [← full, zero] at room
  exact Nat.lt_irrefl 0 room

theorem withoutOldest_room (shape : api.Wellformed) (full : api.count = api.queueSize) :
    api.withoutOldest.count.toNat < api.queueSize.toNat := by
  have fewer := count_pred (shape.nonempty_of_full full)
  have bounded := shape.count_le
  simp only [withoutOldest]
  omega

theorem enqueue_simulates (shape : api.Wellformed) (frame : ApiFrame) :
    let made := (if api.count = api.queueSize then api.withoutOldest else api).withNewest frame
    made.Wellformed ∧ made.view = { api.view with queued := Deque.pushNewest api.queueSize.toNat api.view.queued frame } := by
  intro made
  by_cases full : api.count = api.queueSize
  · obtain ⟨shapeAfter, queuedAfter, -⟩ := withoutOldest_wellformed shape (shape.nonempty_of_full full)
    obtain ⟨shapeLast, queuedLast⟩ := withNewest_wellformed shapeAfter (withoutOldest_room shape full) frame
    have same : made = api.withoutOldest.withNewest frame := by simp only [made, if_pos full]
    rw [same]
    refine ⟨shapeLast, PhoneQueue.ext ?_ rfl rfl⟩
    rw [queuedLast, queuedAfter, Deque.pushNewest, if_pos ((full_iff api).mp full)]
  · obtain ⟨shapeLast, queuedLast⟩ := withNewest_wellformed shape (shape.count_lt full) frame
    have same : made = api.withNewest frame := by simp only [made, if_neg full]
    rw [same]
    refine ⟨shapeLast, PhoneQueue.ext ?_ rfl rfl⟩
    rw [queuedLast, Deque.pushNewest, if_neg (fun long => full ((full_iff api).mpr long))]

theorem pushFrameFront_simulates (shape : api.Wellformed) (frame : ApiFrame) :
    (api.pushFrameFront frame).Wellformed ∧
      (api.pushFrameFront frame).view =
        { api.view with queued := Deque.pushOldest api.queueSize.toNat api.view.queued frame } := by
  by_cases full : api.count = api.queueSize
  · obtain ⟨shapeAfter, queuedAfter⟩ := withoutNewest_wellformed shape (shape.nonempty_of_full full)
    obtain ⟨shapeLast, queuedLast⟩ := withOldest_wellformed shapeAfter (withoutOldest_room shape full) frame
    have same : api.pushFrameFront frame = api.withoutNewest.withOldest frame := by
      simp only [pushFrameFront, if_pos full]
      rfl
    rw [same]
    refine ⟨shapeLast, PhoneQueue.ext ?_ rfl rfl⟩
    rw [queuedLast, queuedAfter, Deque.pushOldest, if_pos ((full_iff api).mp full)]
  · obtain ⟨shapeLast, queuedLast⟩ := withOldest_wellformed shape (shape.count_lt full) frame
    have same : api.pushFrameFront frame = api.withOldest frame := by
      simp only [pushFrameFront, if_neg full]
      rfl
    rw [same]
    refine ⟨shapeLast, PhoneQueue.ext ?_ rfl rfl⟩
    rw [queuedLast, Deque.pushOldest, if_neg (fun long => full ((full_iff api).mpr long))]

theorem nextConfigFrame_idle (sources : PhoneSources) (size count : UInt8) {cursor : ConfigCursor}
    (idle : cursor.state = .idle) : nextConfigFrame encode sources size count cursor = (.error .enoent, cursor) := by
  simp only [nextConfigFrame, idle]

theorem popFrame_simulates (shape : api.Wellformed) (sources : PhoneSources) :
    (api.popFrame encode sources).1.Wellformed ∧
      api.view.takeNext encode api.queueSize sources =
        ((api.popFrame encode sources).1.view, (api.popFrame encode sources).2) := by
  by_cases empty : api.count = 0
  · have nothing : api.view.queued = [] := by
      apply List.eq_nil_of_length_eq_zero
      rw [length_view, empty]
      rfl
    simp only [popFrame, if_pos empty, PhoneQueue.takeNext, nothing]
    by_cases active : api.configActive = true
    · have counted : nextConfigFrame encode sources api.queueSize 0 api.view.cursor =
          nextConfigFrame encode sources api.queueSize api.count api.cursor := by
        rw [empty]
        rfl
      rw [if_pos active, counted]
      generalize nextConfigFrame encode sources api.queueSize api.count api.cursor = result
      obtain ⟨outcome, cursor⟩ := result
      cases outcome with
      | ok frame =>
        exact ⟨⟨shape.tail_lt, shape.count_le, shape.head_eq⟩, Prod.ext (PhoneQueue.ext nothing.symm rfl rfl) rfl⟩
      | error err =>
        exact ⟨⟨shape.tail_lt, shape.count_le, shape.head_eq⟩, Prod.ext (PhoneQueue.ext nothing.symm rfl rfl) rfl⟩
    · have idle : api.view.cursor.state = .idle := by
        change api.cursor.state = .idle
        simpa [configActive] using active
      rw [if_neg active, nextConfigFrame_idle encode sources _ _ idle]
      exact ⟨shape, Prod.ext (PhoneQueue.ext nothing.symm rfl rfl) rfl⟩
  · obtain ⟨shapeAfter, queuedAfter, oldest⟩ := withoutOldest_wellformed shape empty
    simp only [popFrame, if_neg empty, PhoneQueue.takeNext]
    refine ⟨shapeAfter, ?_⟩
    cases listed : api.view.queued with
    | nil =>
      rw [listed] at oldest
      cases oldest
    | cons first rest =>
      rw [listed] at oldest queuedAfter
      simp only [List.head?_cons, Option.some.injEq] at oldest
      simp only [oldest, Prod.mk.injEq, and_true]
      exact PhoneQueue.ext queuedAfter.symm rfl rfl

theorem currentFrame_of_fresh (sources : PhoneSources) (fresh : api.currentValid = false) :
    (api.currentFrame encode sources).2 = (api.popFrame encode sources).2 ∧
      (api.currentFrame encode sources).1 =
        match (api.popFrame encode sources).2 with
        | some frame => { (api.popFrame encode sources).1 with current := frame, currentValid := true }
        | none => (api.popFrame encode sources).1 := by
  by_cases empty : api.count = 0
  · by_cases active : api.configActive = true
    · simp only [currentFrame, popFrame, fresh, empty, active, true_and, if_true]
      generalize nextConfigFrame encode sources api.queueSize 0 api.cursor = result
      obtain ⟨outcome, cursor⟩ := result
      cases outcome with
      | ok frame => exact ⟨rfl, rfl⟩
      | error err => simp
    · simp [currentFrame, popFrame, fresh, empty, active]
  · have some_left : api.count > 0 := by
      apply UInt8.lt_iff_toNat_lt.mpr
      have := count_pred empty
      change 0 < api.count.toNat
      omega
    simp only [currentFrame, popFrame, fresh, some_left, empty, and_self, if_true, if_false]

theorem currentFrame_simulates (shape : api.Wellformed) (sources : PhoneSources) :
    (api.currentFrame encode sources).1.Wellformed ∧
      api.view.hold encode api.queueSize sources =
        ((api.currentFrame encode sources).1.view, (api.currentFrame encode sources).2) := by
  cases valid : api.currentValid with
  | true =>
    have kept : api.currentFrame encode sources = (api, some api.current) := by
      simp only [currentFrame, valid, Bool.true_eq_false, false_and, if_false, if_true]
    have held : api.view.held = some api.current := by simp only [view, valid, if_true]
    rw [kept, PhoneQueue.hold, held]
    exact ⟨shape, rfl⟩
  | false =>
    obtain ⟨shapeAfter, simulated⟩ := popFrame_simulates encode shape sources
    obtain ⟨reply, after⟩ := currentFrame_of_fresh encode sources valid
    have held : api.view.held = none := by simp [view, valid]
    rw [PhoneQueue.hold, held, simulated, after, reply]
    cases taken : (api.popFrame encode sources).2 with
    | some frame => exact ⟨⟨shapeAfter.tail_lt, shapeAfter.count_le, shapeAfter.head_eq⟩, rfl⟩
    | none =>
      refine ⟨shapeAfter, ?_⟩
      have unheld : (api.popFrame encode sources).1.view.held = none := by
        have same := congrArg (fun pair => pair.1.held) simulated
        simp only [PhoneQueue.takeNext] at same
        rw [← same]
        split <;> [skip; split] <;> exact held
      exact Prod.ext (PhoneQueue.ext rfl unheld.symm rfl) rfl

/-- One call: the ring keeps its shape and answers as the queue it stands for. -/
theorem call_simulates (shape : api.Wellformed) (call : PhoneCall) :
    (api.call encode call).1.Wellformed ∧
      api.view.call encode api.queueSize call = ((api.call encode call).1.view, (api.call encode call).2) := by
  have size_lt : 0 < api.queueSize.toNat := shape.room
  cases call with
  | enqueueFromradio message =>
    simp only [PhoneApi.call, PhoneQueue.call, enqueueFromradio]
    cases encodeFromradioFrame encode message with
    | error err => exact ⟨shape, rfl⟩
    | ok frame =>
      obtain ⟨shapeAfter, same⟩ := enqueue_simulates shape frame
      exact ⟨shapeAfter, Prod.ext same.symm rfl⟩
  | popFrame sources =>
    obtain ⟨shapeAfter, same⟩ := popFrame_simulates encode shape sources
    refine ⟨shapeAfter, ?_⟩
    simp only [PhoneQueue.call, same]
    rfl
  | pushFrameFront frame =>
    obtain ⟨shapeAfter, same⟩ := pushFrameFront_simulates shape frame
    exact ⟨shapeAfter, Prod.ext same.symm rfl⟩
  | currentFrame sources =>
    obtain ⟨shapeAfter, same⟩ := currentFrame_simulates encode shape sources
    refine ⟨shapeAfter, ?_⟩
    simp only [PhoneQueue.call, same]
    rfl
  | releaseCurrentFrame => exact ⟨⟨shape.tail_lt, shape.count_le, shape.head_eq⟩, rfl⟩
  | currentFrameReset => exact ⟨⟨shape.tail_lt, shape.count_le, shape.head_eq⟩, rfl⟩
  | reset => exact ⟨⟨size_lt, Nat.zero_le _, (Nat.zero_mod _).symm⟩, rfl⟩
  | enqueuePhoneConfig requestId => exact ⟨⟨size_lt, Nat.zero_le _, (Nat.zero_mod _).symm⟩, rfl⟩

theorem call_queueSize (api : PhoneApi) (call : PhoneCall) : (api.call encode call).1.queueSize = api.queueSize := by
  cases call with
  | enqueueFromradio message =>
    simp only [PhoneApi.call, enqueueFromradio]
    cases encodeFromradioFrame encode message with
    | error err => rfl
    | ok frame =>
      dsimp only
      split <;> rfl
  | popFrame sources =>
    simp only [PhoneApi.call, popFrame]
    split
    · split
      · split <;> rfl
      · rfl
    · rfl
  | pushFrameFront frame =>
    simp only [PhoneApi.call, pushFrameFront]
    split <;> rfl
  | currentFrame sources =>
    simp only [PhoneApi.call, currentFrame]
    split
    · rfl
    · split
      · split <;> rfl
      · rfl
  | releaseCurrentFrame => rfl
  | currentFrameReset => rfl
  | reset => rfl
  | enqueuePhoneConfig requestId => rfl

theorem init_wellformed (cells : Nat → ApiFrame) {size : UInt8} (room : size ≠ 0) :
    (phoneapiInit cells size).Wellformed := by
  have positive := count_pred room
  refine ⟨?_, Nat.zero_le _, (Nat.zero_mod _).symm⟩
  change 0 < size.toNat
  omega

theorem answers_simulates (shape : api.Wellformed) (calls : List PhoneCall) :
    let ring := Transition.answers (PhoneApi.call encode) api calls
    (ring.1.Wellformed ∧ ring.1.queueSize = api.queueSize) ∧
      Transition.answers (PhoneQueue.call encode api.queueSize) api.view calls = (ring.1.view, ring.2) := by
  have single : ∀ (other : PhoneApi) (call : PhoneCall), other.Wellformed ∧ other.queueSize = api.queueSize →
      ((other.call encode call).1.Wellformed ∧ (other.call encode call).1.queueSize = api.queueSize) ∧
        other.view.call encode api.queueSize call = ((other.call encode call).1.view, (other.call encode call).2) := by
    intro other call invariant
    obtain ⟨shapeAfter, same⟩ := call_simulates encode invariant.1 call
    rw [invariant.2] at same
    exact ⟨⟨shapeAfter, (call_queueSize encode other call).trans invariant.2⟩, same⟩
  exact Transition.answers_simulation view (fun other => other.Wellformed ∧ other.queueSize = api.queueSize) single
    ⟨shape, rfl⟩ calls

end PhoneApi

/-! ## The held frame -/

theorem PhoneQueue.call_keeps_held (size : UInt8) {q : PhoneQueue} {frame : ApiFrame} (held : q.held = some frame)
    {call : PhoneCall} (keeps : call.dropsHeld = false) : (q.call encode size call).1.held = some frame := by
  cases call with
  | enqueueFromradio message =>
    simp only [PhoneQueue.call]
    split <;> exact held
  | popFrame sources =>
    simp only [PhoneQueue.call, PhoneQueue.takeNext]
    split
    · exact held
    · split <;> exact held
  | pushFrameFront other => exact held
  | currentFrame sources =>
    simp only [PhoneQueue.call, PhoneQueue.hold, held]
  | releaseCurrentFrame => cases keeps
  | currentFrameReset => cases keeps
  | reset => cases keeps
  | enqueuePhoneConfig requestId => cases keeps

theorem PhoneQueue.answers_keep_held (size : UInt8) {q : PhoneQueue} {frame : ApiFrame} (held : q.held = some frame)
    {calls : List PhoneCall} (keep : ∀ call ∈ calls, call.dropsHeld = false) :
    (Transition.answers (PhoneQueue.call encode size) q calls).1.held = some frame := by
  induction calls generalizing q with
  | nil => exact held
  | cons call rest ih =>
    have kept := PhoneQueue.call_keeps_held encode size held (keep call List.mem_cons_self)
    exact ih kept (fun later member => keep later (List.mem_cons_of_mem _ member))

/-- The ring is the bounded queue with a held frame: head, tail and count fit together, the calls are
answered as the queue answers them, and a frame once held is what `current_frame` gives until it is
released, reset or invalidated, whatever overflows meanwhile. -/
theorem fromradio_ring_is_bounded_deque (cells : Nat → ApiFrame) (size : UInt8) (room : size ≠ 0)
    (calls : List PhoneCall) :
    let ring := Transition.answers (PhoneApi.call encode) (phoneapiInit cells size) calls
    let queue := Transition.answers (PhoneQueue.call encode size) {} calls
    (ring.1.Wellformed ∧ ring.1.queueSize = size) ∧
      ring.1.view = queue.1 ∧ ring.2 = queue.2 ∧ queue.1.queued.length ≤ size.toNat ∧
      ∀ frame, queue.1.held = some frame → ∀ more : List PhoneCall, (∀ call ∈ more, call.dropsHeld = false) →
        ∀ sources, ((Transition.answers (PhoneApi.call encode) ring.1 more).1.currentFrame encode sources).2 =
          some frame := by
  intro ring queue
  obtain ⟨shape, same⟩ := PhoneApi.answers_simulates encode (PhoneApi.init_wellformed cells room) calls
  have start : (phoneapiInit cells size).view = {} := rfl
  rw [start] at same
  have sameState : queue.1 = ring.1.view := congrArg Prod.fst same
  refine ⟨shape, sameState.symm, (congrArg Prod.snd same).symm, ?_, ?_⟩
  · rw [sameState, PhoneApi.length_view]
    have bounded := shape.1.count_le
    rw [shape.2] at bounded
    exact bounded
  · intro frame held more keep sources
    rw [sameState] at held
    obtain ⟨shapeLater, sameLater⟩ := PhoneApi.answers_simulates encode shape.1 more
    have heldLater := PhoneQueue.answers_keep_held encode ring.1.queueSize held keep
    rw [sameLater] at heldLater
    have simulated := (PhoneApi.currentFrame_simulates encode shapeLater.1 sources).2
    rw [PhoneQueue.hold, heldLater] at simulated
    exact (congrArg Prod.snd simulated).symm

end

/-- A ring of one cell: the second frame pushes the first out, is held, and outlives two more. -/
theorem fromradio_ring_of_one_cell :
    let calls := [PhoneCall.enqueueFromradio (liveMessage 1), .enqueueFromradio (liveMessage 2),
      .currentFrame plainSources]
    let more := [PhoneCall.enqueueFromradio (liveMessage 3), .enqueueFromradio (liveMessage 4)]
    let ring := Transition.answers (PhoneApi.call numberOnly) (phoneapiInit (fun _ => .blank) 1) calls
    (1 : UInt8) ≠ 0 ∧ ring.1.head.toNat = (ring.1.tail.toNat + ring.1.count.toNat) % ring.1.queueSize.toNat ∧
      ((Transition.answers (PhoneApi.call numberOnly) ring.1 more).1.currentFrame numberOnly plainSources).2 =
        some (liveFrame 2) := by
  intro calls more ring
  have whole := fromradio_ring_is_bounded_deque numberOnly (fun _ => .blank) 1 (by decide) calls
  refine ⟨by decide, whole.1.1.head_eq, ?_⟩
  exact whole.2.2.2.2 (liveFrame 2) (by decide) more (by decide) plainSources

end Meshtastic
