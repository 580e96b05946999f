import Meshtastic.Lib.Run
import Meshtastic.PhoneApi

/-! ToRadio writes over BLE (`meshtastic_ble.c`). A write copies its message into one shared buffer and
submits one work item; the worker copies the buffer out, empties it and passes its copy on. Each copy
is made under the lock, so the two sides interleave between copies. -/

namespace Meshtastic
open Bytes

structure ToRadioBuffer where
  bytes : Nat → UInt8
  length : Nat

def ToRadioBuffer.contents (buffer : ToRadioBuffer) : Octets := (List.range buffer.length).map buffer.bytes

def BT_ATT_ERR_INVALID_ATTRIBUTE_LEN : Nat := 0x0d

/-- `write_toradio` up to its unlock: the ATT error, or the buffer after the copy. -/
def writeToradio (buffer : ToRadioBuffer) (message : Octets) (offset : Nat) (prepare : Bool) :
    Except Nat ToRadioBuffer :=
  if offset + message.length > API_FRAME_MAX then .error BT_ATT_ERR_INVALID_ATTRIBUTE_LEN
  else
    let length := if offset = 0 ∧ prepare = false then 0 else buffer.length
    .ok
      { bytes := fun i => if i < offset then buffer.bytes i else message.getD (i - offset) (buffer.bytes i)
        length := max length (offset + message.length) }

/-- The two sides between their steps: a write that has copied its message and not yet submitted the
work, a worker that has started, and a worker that holds its copy. -/
inductive WriterPhase where
  | idle
  | copied (message : Octets)
  deriving DecidableEq

inductive WorkerPhase where
  | idle
  | started
  | copied (message : Octets)
  deriving DecidableEq

/-- `pending` is the work item's flag. `acknowledged` and `handled` record the writes that returned and
the buffers passed to `meshtastic_phoneapi_handle_toradio`. -/
structure ToRadioLink where
  buffer : ToRadioBuffer
  pending : Bool := false
  writer : WriterPhase := .idle
  worker : WorkerPhase := .idle
  acknowledged : List Octets := []
  handled : List Octets := []

inductive ToRadioMove where
  | write (message : Octets)
  | submit
  | start
  | copy
  | handle
  deriving DecidableEq

namespace ToRadioLink

/-- Complete, non-prepared writes at offset 0, and the parts of `to_radio_work_handler`. Submitting
work that is pending changes nothing. -/
def step (link : ToRadioLink) : ToRadioMove → Option ToRadioLink
  | .write message =>
    match link.writer, writeToradio link.buffer message 0 false with
    | .idle, .ok buffer => some { link with buffer := buffer, writer := .copied message }
    | _, _ => none
  | .submit =>
    match link.writer with
    | .copied message =>
      some { link with writer := .idle, pending := true, acknowledged := link.acknowledged ++ [message] }
    | .idle => none
  | .start =>
    match link.worker, link.pending with
    | .idle, true => some { link with pending := false, worker := .started }
    | _, _ => none
  | .copy =>
    match link.worker with
    | .started =>
      some { link with buffer := { link.buffer with length := 0 }, worker := .copied link.buffer.contents }
    | _ => none
  | .handle =>
    match link.worker with
    | .copied message => some { link with worker := .idle, handled := link.handled ++ [message] }
    | _ => none

def Yields (link : ToRadioLink) : ToRadioMove → Prop
  | .write message => message ≠ [] ∧ link.buffer.length = 0
  | _ => True

instance (link : ToRadioLink) : (move : ToRadioMove) → Decidable (link.Yields move)
  | .write message => inferInstanceAs (Decidable (message ≠ [] ∧ link.buffer.length = 0))
  | .submit => isTrue trivial
  | .start => isTrue trivial
  | .copy => isTrue trivial
  | .handle => isTrue trivial

/-! ## Where the messages are -/

def fresh : ToRadioLink := { buffer := { bytes := fun _ => 0, length := 0 } }

def written (link : ToRadioLink) : List Octets :=
  link.acknowledged ++ (match link.writer with
    | .idle => []
    | .copied message => [message])

def inWorker (link : ToRadioLink) : List Octets :=
  match link.worker with
  | .copied message => [message]
  | _ => []

def inBuffer (link : ToRadioLink) : List Octets := if link.buffer.length = 0 then [] else [link.buffer.contents]

def AtRest (link : ToRadioLink) : Prop := link.writer = .idle ∧ link.pending = false ∧ link.worker = .idle

/-- A message in the buffer is on its way through exactly one of: a write about to submit, the pending
work, a worker about to copy. With an empty buffer there is none of these. -/
def OneBearer (link : ToRadioLink) : Prop :=
  (link.buffer.length = 0 ∧ link.writer = .idle ∧ link.pending = false ∧ link.worker ≠ .started) ∨
    (link.buffer.length ≠ 0 ∧ link.writer ≠ .idle ∧ link.pending = false ∧ link.worker ≠ .started) ∨
    (link.buffer.length ≠ 0 ∧ link.writer = .idle ∧ link.pending = true ∧ link.worker ≠ .started) ∨
    (link.buffer.length ≠ 0 ∧ link.writer = .idle ∧ link.pending = false ∧ link.worker = .started)

structure Orderly (link : ToRadioLink) : Prop where
  account : link.handled ++ link.inWorker ++ link.inBuffer = link.written
  bearer : link.OneBearer
  nonempty : ∀ message ∈ link.written, message ≠ []

theorem contents_writeToradio {buffer after : ToRadioBuffer} {message : Octets}
    (stored : writeToradio buffer message 0 false = .ok after) :
    after.length = message.length ∧ after.contents = message := by
  unfold writeToradio at stored
  split at stored
  · cases stored
  · cases stored
    have size : max 0 (0 + message.length) = message.length := by omega
    refine ⟨size, ?_⟩
    simp only [ToRadioBuffer.contents, and_self, if_true]
    rw [size]
    apply List.ext_getElem
    · simp
    · intro index first second
      simp [second]

/-! ## The steps -/

variable {link next : ToRadioLink}

theorem Orderly.write (orderly : link.Orderly) {message : Octets} (yields : link.Yields (.write message))
    (moved : link.step (.write message) = some next) : next.Orderly := by
  obtain ⟨some_bytes, emptied⟩ := yields
  have account := orderly.account
  have rested : link.writer = .idle ∧ link.pending = false ∧ link.worker ≠ .started := by
    rcases orderly.bearer with ⟨-, here⟩ | ⟨full, -⟩ | ⟨full, -⟩ | ⟨full, -⟩
    · exact here
    · exact absurd emptied full
    · exact absurd emptied full
    · exact absurd emptied full
  simp only [step, rested.1] at moved
  cases stored : writeToradio link.buffer message 0 false with
  | error code =>
    rw [stored] at moved
    cases moved
  | ok buffer =>
    rw [stored] at moved
    cases moved
    obtain ⟨size, whole⟩ := contents_writeToradio stored
    have filled : buffer.length ≠ 0 := by
      rw [size]
      exact fun none => some_bytes (List.eq_nil_of_length_eq_zero none)
    simp only [inBuffer, emptied, if_true, written, rested.1, List.append_nil] at account
    refine ⟨?_, .inr (.inl ⟨filled, (fun idle => nomatch idle), rested.2⟩), ?_⟩
    · simp only [inBuffer, filled, if_false, whole, written]
      exact congrArg (· ++ [message]) account
    · intro other member
      rcases List.mem_append.mp member with old | new
      · exact orderly.nonempty other (by simpa [written, rested.1] using old)
      · rw [List.mem_singleton.mp new]
        exact some_bytes

theorem Orderly.submit (orderly : link.Orderly) (moved : link.step .submit = some next) : next.Orderly := by
  have account := orderly.account
  cases writing : link.writer with
  | idle =>
    simp only [step, writing] at moved
    cases moved
  | copied message =>
    have full : link.buffer.length ≠ 0 ∧ link.worker ≠ .started := by
      rcases orderly.bearer with ⟨-, idle, -⟩ | ⟨full, -, -, other⟩ | ⟨-, idle, -⟩ | ⟨-, idle, -⟩
      · rw [writing] at idle
        cases idle
      · exact ⟨full, other⟩
      · rw [writing] at idle
        cases idle
      · rw [writing] at idle
        cases idle
    simp only [step, writing] at moved
    cases moved
    have same : written { link with writer := .idle, pending := true, acknowledged := link.acknowledged ++ [message] } =
        link.written := by
      simp only [written, writing, List.append_nil]
    refine ⟨?_, .inr (.inr (.inl ⟨full.1, rfl, rfl, full.2⟩)), ?_⟩
    · rw [same]
      exact account
    · rw [same]
      exact orderly.nonempty

theorem Orderly.start (orderly : link.Orderly) (moved : link.step .start = some next) : next.Orderly := by
  have account := orderly.account
  simp only [step] at moved
  split at moved
  · rename_i resting waiting
    cases moved
    have full : link.buffer.length ≠ 0 ∧ link.writer = .idle := by
      rcases orderly.bearer with ⟨-, -, calm, -⟩ | ⟨-, -, calm, -⟩ | ⟨full, idle, -⟩ | ⟨-, -, calm, -⟩
      · rw [waiting] at calm
        cases calm
      · rw [waiting] at calm
        cases calm
      · exact ⟨full, idle⟩
      · rw [waiting] at calm
        cases calm
    refine ⟨?_, .inr (.inr (.inr ⟨full.1, full.2, rfl, rfl⟩)), orderly.nonempty⟩
    simp only [inWorker, resting] at account
    exact account
  · cases moved

theorem Orderly.copy (orderly : link.Orderly) (moved : link.step .copy = some next) : next.Orderly := by
  have account := orderly.account
  simp only [step] at moved
  split at moved
  · rename_i running
    cases moved
    have full : link.buffer.length ≠ 0 ∧ link.writer = .idle ∧ link.pending = false := by
      rcases orderly.bearer with ⟨-, -, -, other⟩ | ⟨-, -, -, other⟩ | ⟨-, -, -, other⟩ | ⟨full, idle, calm, -⟩
      · exact absurd running other
      · exact absurd running other
      · exact absurd running other
      · exact ⟨full, idle, calm⟩
    refine ⟨?_, .inl ⟨rfl, full.2.1, full.2.2, (fun started => nomatch started)⟩, orderly.nonempty⟩
    simp only [inWorker, running, inBuffer, full.1, if_false, List.append_nil] at account
    simp only [inWorker, inBuffer, if_true, List.append_nil]
    exact account
  · cases moved

theorem Orderly.handle (orderly : link.Orderly) (moved : link.step .handle = some next) : next.Orderly := by
  have account := orderly.account
  simp only [step] at moved
  split at moved
  · rename_i message holding
    cases moved
    refine ⟨?_, ?_, orderly.nonempty⟩
    · simp only [inWorker, holding] at account
      simp only [inWorker, List.append_nil]
      exact account
    · have other : WorkerPhase.idle ≠ .started := by decide
      rcases orderly.bearer with ⟨none, idle, calm, -⟩ | ⟨full, busy, calm, -⟩ | ⟨full, idle, waiting, -⟩ |
        ⟨-, -, -, started⟩
      · exact .inl ⟨none, idle, calm, other⟩
      · exact .inr (.inl ⟨full, busy, calm, other⟩)
      · exact .inr (.inr (.inl ⟨full, idle, waiting, other⟩))
      · rw [holding] at started
        cases started
  · cases moved

theorem Orderly.step (link : ToRadioLink) (move : ToRadioMove) (next : ToRadioLink) (orderly : link.Orderly)
    (yields : link.Yields move) (moved : link.step move = some next) : next.Orderly := by
  cases move with
  | write message => exact orderly.write yields moved
  | submit => exact orderly.submit moved
  | start => exact orderly.start moved
  | copy => exact orderly.copy moved
  | handle => exact orderly.handle moved

theorem fresh_orderly : fresh.Orderly :=
  ⟨rfl, .inl ⟨rfl, rfl, rfl, by decide⟩, (fun message member => nomatch member)⟩

/-! ## Finishing -/

/-- How many steps the messages under way still have before them, at most. -/
def rank (link : ToRadioLink) : Nat :=
  (if link.writer = .idle then 0 else 4) + (if link.pending then 3 else 0) +
    (match link.worker with
      | .idle => 0
      | .started => 2
      | .copied _ => 1)

theorem exists_step_of_not_atRest (busy : ¬ link.AtRest) :
    ∃ move next, (∀ message, move ≠ .write message) ∧ link.step move = some next ∧
      next.rank < link.rank ∧ next.written = link.written := by
  cases writing : link.writer with
  | copied message =>
    refine ⟨.submit, { link with writer := .idle, pending := true, acknowledged := link.acknowledged ++ [message] },
      (fun _ same => nomatch same), ?_, ?_, ?_⟩
    · simp only [step, writing]
    · simp only [rank, writing, if_true, reduceCtorEq, if_false]
      split <;> omega
    · simp only [written, writing, List.append_nil]
  | idle =>
    cases working : link.worker with
    | copied message =>
      refine ⟨.handle, { link with worker := .idle, handled := link.handled ++ [message] },
        (fun _ same => nomatch same), ?_, ?_, rfl⟩
      · simp only [step, working]
      · simp only [rank, working]
        omega
    | started =>
      refine ⟨.copy, { link with buffer := { link.buffer with length := 0 }, worker := .copied link.buffer.contents },
        (fun _ same => nomatch same), ?_, ?_, rfl⟩
      · simp only [step, working]
      · simp only [rank, working]
        omega
    | idle =>
      cases waiting : link.pending with
      | true =>
        refine ⟨.start, { link with pending := false, worker := .started }, (fun _ same => nomatch same), ?_, ?_, rfl⟩
        · simp only [step, working, waiting]
        · simp only [rank, working, waiting, if_true, Bool.false_eq_true, if_false]
          omega
      | false => exact absurd ⟨writing, waiting, working⟩ busy

theorem exists_finish (link : ToRadioLink) :
    ∃ moves done, (∀ message, .write message ∉ moves) ∧ Transition.run step link moves = some done ∧ done.AtRest ∧
      done.written = link.written := by
  induction size : link.rank using Nat.strongRecOn generalizing link with
  | ind bound ih =>
    by_cases rest : link.AtRest
    · exact ⟨[], link, (fun message member => nomatch member), rfl, rest, rfl⟩
    · obtain ⟨move, next, noWrite, moved, smaller, same⟩ := exists_step_of_not_atRest rest
      obtain ⟨moves, done, noWrites, whole, atRest, sameLater⟩ := ih next.rank (by omega) next rfl
      refine ⟨move :: moves, done, ?_, Transition.run_cons_eq_some.mpr ⟨next, moved, whole⟩, atRest, ?_⟩
      · intro message member
        rcases List.mem_cons.mp member with first | later
        · exact noWrite message first.symm
        · exact noWrites message later
      · rw [sameLater, same]

theorem Orderly.handled_of_atRest (orderly : link.Orderly) (rest : link.AtRest) :
    link.handled = link.acknowledged := by
  have account := orderly.account
  have emptied : link.buffer.length = 0 := by
    rcases orderly.bearer with ⟨none, -⟩ | ⟨-, busy, -⟩ | ⟨-, -, waiting, -⟩ | ⟨-, -, -, started⟩
    · exact none
    · exact absurd rest.1 busy
    · rw [rest.2.1] at waiting
      cases waiting
    · rw [rest.2.2] at started
      cases started
  simpa [inWorker, inBuffer, written, rest.1, rest.2.2, emptied] using account

theorem yields_of_no_write {moves : List ToRadioMove} (noWrites : ∀ message, .write message ∉ moves)
    (link : ToRadioLink) : Transition.Guarded step Yields link moves := by
  apply Transition.guarded_of_forall
  intro other move member
  cases move with
  | write message => exact absurd member (noWrites message)
  | submit | start | copy | handle => trivial

end ToRadioLink

/-- When every write is not empty and finds the buffer emptied, the worker passes on exactly the
messages written, in order: never an empty one, at rest all those acknowledged, and whatever is under
way can be finished without a further write. -/
theorem toradio_messages_in_order {moves : List ToRadioMove} {last : ToRadioLink}
    (yields : Transition.Guarded ToRadioLink.step ToRadioLink.Yields .fresh moves)
    (whole : Transition.run ToRadioLink.step .fresh moves = some last) :
    last.handled <+: last.written ∧ (∀ message ∈ last.handled, message ≠ []) ∧
      (last.AtRest → last.handled = last.acknowledged) ∧
      ∃ finish done, (∀ message, .write message ∉ finish) ∧
        Transition.run ToRadioLink.step last finish = some done ∧ done.handled = last.written := by
  have orderly := Transition.run_invariant ToRadioLink.Orderly.step ToRadioLink.fresh_orderly yields whole
  have ahead : last.handled <+: last.written := by
    rw [← orderly.account, List.append_assoc]
    exact List.prefix_append _ _
  refine ⟨ahead, ?_, orderly.handled_of_atRest, ?_⟩
  · intro message member
    exact orderly.nonempty message (ahead.subset member)
  · obtain ⟨finish, done, noWrites, ran, rest, same⟩ := last.exists_finish
    have orderlyDone := Transition.run_invariant ToRadioLink.Orderly.step orderly
      (ToRadioLink.yields_of_no_write noWrites last) ran
    refine ⟨finish, done, noWrites, ran, ?_⟩
    rw [orderlyDone.handled_of_atRest rest, ← same, ToRadioLink.written, rest.1, List.append_nil]

def spacedWrites : List ToRadioMove :=
  [.write [1], .submit, .start, .copy, .write [2], .submit, .handle, .start, .copy, .handle]

def rushedWrites : List ToRadioMove := [.write [1], .submit, .write [2], .submit, .start, .copy, .handle]

theorem spacedWrites_complete : (Transition.run ToRadioLink.step .fresh spacedWrites).isSome := by decide

theorem toradio_messages_in_order_spaced :
    ∃ last, Transition.run ToRadioLink.step .fresh spacedWrites = some last ∧ last.AtRest ∧
      last.handled = last.acknowledged ∧ last.acknowledged = [[1], [2]] := by
  have whole := (Option.some_get spacedWrites_complete).symm
  have rest : ((Transition.run ToRadioLink.step .fresh spacedWrites).get spacedWrites_complete).AtRest :=
    ⟨by decide, by decide, by decide⟩
  refine ⟨_, whole, rest, ?_, by decide⟩
  exact (toradio_messages_in_order (by decide) whole).2.2.1 rest

theorem rushedWrites_complete : (Transition.run ToRadioLink.step .fresh rushedWrites).isSome := by decide

/-- Both writes are acknowledged, the first message is gone. -/
theorem toradio_message_lost :
    ∃ last, Transition.run ToRadioLink.step .fresh rushedWrites = some last ∧ last.AtRest ∧
      last.acknowledged = [[1], [2]] ∧ last.handled = [[2]] := by
  refine ⟨_, (Option.some_get rushedWrites_complete).symm, ⟨?_, ?_, ?_⟩, ?_, ?_⟩ <;> decide

end Meshtastic
