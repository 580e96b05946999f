import Meshtastic.Lib.Run
import Meshtastic.PhoneQueue

/-! FromRadio reads over BLE (`meshtastic_ble.c`). The work handler takes a frame out of the queue and
stages it; a read at offset 0 copies the staged frame into the read buffer, blob reads go on from an
offset in that buffer, and the read that reaches its end releases the frame. Handler and reads share
the staged frame, the ready flag and the queue's held frame without a common lock. -/

namespace Meshtastic
open Bytes

/-- `bt_gatt_attr_read` for a chunk of at most `chunk` bytes; `none` for an offset behind the value. -/
def gattAttrRead (value : Octets) (offset chunk : Nat) : Option Octets :=
  if offset > value.length then none else some ((value.drop offset).take chunk)

/-- `fromradio_work_handler` between its steps: it has found no frame ready, or it has a frame staged
that is not yet marked ready. -/
inductive HandlerPhase where
  | idle
  | checked
  | staged
  deriving DecidableEq

/-- `read_fromradio` between its steps: it has reached the end of the value, for the first time or once
more, or it has released the held frame and not yet cleared the ready flag. -/
inductive ReadPhase where
  | idle
  | ending (again : Bool)
  | released
  deriving DecidableEq

/-- The state both sides share, and a record of what happened: `got` is what the client has of the value
in the read buffer, `ended` that it has been given the last byte; then the frames taken out of the queue,
those the client read to their end, and those released. -/
structure FromRadioLink where
  api : PhoneApi
  staged : ApiFrame := ApiFrame.blank
  ready : Bool := false
  value : Octets := []
  handler : HandlerPhase := .idle
  reader : ReadPhase := .idle
  got : Octets := []
  ended : Bool := true
  taken : List ApiFrame := []
  readFrames : List Octets := []
  released : List ApiFrame := []

inductive FromRadioMove where
  | enqueue (message : FromRadio)
  | check
  | stage (sources : PhoneSources)
  | publish
  | read (offset chunk : Nat)
  | release
  | clear

namespace FromRadioLink

def load (link : FromRadioLink) (offset : Nat) : FromRadioLink :=
  if offset = 0 then
    { link with value := if link.ready then link.staged.data else [], got := [], ended := false }
  else link

def receive (link : FromRadioLink) (offset : Nat) (bytes : Octets) : FromRadioLink :=
  if offset + bytes.length ≤ link.got.length then link else { link with got := link.got.take offset ++ bytes }

/-- The end of the value was reached: the first time, what the client has is a frame it has read. -/
def reach (link : FromRadioLink) : FromRadioLink :=
  { link with
    reader := .ending link.ended
    readFrames := if link.ended then link.readFrames else link.readFrames ++ [link.got]
    ended := true }

def readFromradio (link : FromRadioLink) (offset chunk : Nat) : FromRadioLink :=
  let link := link.load offset
  match gattAttrRead link.value offset chunk with
  | none => link
  | some bytes =>
    let link := link.receive offset bytes
    if link.value.length > 0 ∧ offset + bytes.length ≥ link.value.length then link.reach else link

def step (encode : FromRadio → Option Octets) (link : FromRadioLink) : FromRadioMove → Option FromRadioLink
  | .enqueue message => some { link with api := (link.api.enqueueFromradio encode message).1 }
  | .check =>
    match link.handler with
    | .idle => some (if link.ready then link else { link with handler := .checked })
    | _ => none
  | .stage sources =>
    match link.handler with
    | .checked =>
      match link.api.currentFrame encode sources with
      | (api, none) => some { link with api := api, handler := .idle }
      | (api, some frame) =>
        some
          { link with
            api := api
            handler := .staged
            staged := frame
            taken := if link.api.currentValid then link.taken else link.taken ++ [frame] }
    | _ => none
  | .publish =>
    match link.handler with
    | .staged =>
      some { link with api := { link.api with fromNum := link.api.fromNum + 1 }, handler := .idle, ready := true }
    | _ => none
  | .read offset chunk =>
    match link.reader with
    | .idle => some (link.readFromradio offset chunk)
    | _ => none
  | .release =>
    match link.reader with
    | .ending _ =>
      some
        { link with
          api := link.api.releaseCurrentFrame
          reader := .released
          released := if link.api.currentValid then link.released ++ [link.api.current] else link.released }
    | _ => none
  | .clear =>
    match link.reader with
    | .released => some { link with reader := .idle, ready := false }
    | _ => none

/-- The client leaves no gap between what it has and where a blob read begins, and a read that ends a
value once more finds no later frame held when it releases. -/
def Careful (link : FromRadioLink) : FromRadioMove → Prop
  | .read offset _ => offset ≠ 0 → offset ≤ link.got.length
  | .release => link.reader = .ending true → link.api.currentValid = false
  | _ => True

instance (link : FromRadioLink) : (move : FromRadioMove) → Decidable (link.Careful move)
  | .read offset _ => inferInstanceAs (Decidable (offset ≠ 0 → offset ≤ link.got.length))
  | .release => inferInstanceAs (Decidable (link.reader = .ending true → link.api.currentValid = false))
  | .enqueue _ => isTrue trivial
  | .check => isTrue trivial
  | .stage _ => isTrue trivial
  | .publish => isTrue trivial
  | .clear => isTrue trivial

/-! ## What the two sides agree on -/

def held (link : FromRadioLink) : List ApiFrame := if link.api.currentValid then [link.api.current] else []

/-- Between the end of the first complete read of a frame and its release, the client has read all the
frames taken; otherwise exactly those released. -/
structure Faithful (link : FromRadioLink) : Prop where
  account : link.taken = link.released ++ link.held
  window : link.handler ≠ .idle → link.ready = false
  stagedHeld : link.handler = .staged → link.api.currentValid = true ∧ link.staged = link.api.current
  readyHeld : link.ready = true → link.reader ≠ .released →
    link.api.currentValid = true ∧ link.staged = link.api.current
  reading : link.ended = false → link.reader = .idle ∧ link.got <+: link.value ∧
    (link.value ≠ [] → link.ready = true ∧ link.value = link.staged.data)
  ending : link.reader = .ending false → link.ready = true
  read : link.readFrames = (if link.reader = .ending false then link.taken else link.released).map ApiFrame.data

theorem held_of_valid {link : FromRadioLink} (valid : link.api.currentValid = true) : link.held = [link.api.current] :=
  if_pos valid

theorem held_of_free {link : FromRadioLink} (free : link.api.currentValid = false) : link.held = [] := by
  simp only [held, free, Bool.false_eq_true, if_false]

/-! ### The queue -/

theorem enqueue_current (encode : FromRadio → Option Octets) (api : PhoneApi) (message : FromRadio) :
    (api.enqueueFromradio encode message).1.currentValid = api.currentValid ∧
      (api.enqueueFromradio encode message).1.current = api.current := by
  simp only [PhoneApi.enqueueFromradio]
  split
  · exact ⟨rfl, rfl⟩
  · dsimp only
    split <;> exact ⟨rfl, rfl⟩

theorem currentFrame_cases (encode : FromRadio → Option Octets) (sources : PhoneSources) (api : PhoneApi) :
    let result := api.currentFrame encode sources
    (result.2 = none ∧ api.currentValid = false ∧ result.1.currentValid = false) ∨
      (∃ frame, result.2 = some frame ∧ result.1.currentValid = true ∧ result.1.current = frame ∧
        (api.currentValid = true → frame = api.current)) := by
  intro result
  cases valid : api.currentValid with
  | true =>
    have kept : result = (api, some api.current) := by
      simp only [result, PhoneApi.currentFrame, valid, Bool.true_eq_false, false_and, if_false, if_true]
    rw [kept]
    exact .inr ⟨api.current, rfl, valid, rfl, fun _ => rfl⟩
  | false =>
    obtain ⟨reply, moved⟩ := PhoneApi.currentFrame_of_fresh encode sources valid
    have popped : (api.popFrame encode sources).1.currentValid = false := by
      simp only [PhoneApi.popFrame]
      split
      · split
        · split <;> exact valid
        · exact valid
      · exact valid
    cases taken : (api.popFrame encode sources).2 with
    | none =>
      rw [taken] at reply moved
      exact .inl ⟨reply, rfl, by rw [show result.1 = _ from moved]; exact popped⟩
    | some frame =>
      rw [taken] at reply moved
      refine .inr ⟨frame, reply, ?_, ?_, fun held => absurd held Bool.false_ne_true⟩
      · rw [show result.1 = _ from moved]
      · rw [show result.1 = _ from moved]

/-! ### Bytes -/

theorem receive_ahead {link : FromRadioLink} {offset chunk : Nat} {bytes : Octets}
    (ahead : link.got <+: link.value) (noGap : offset ≤ link.got.length)
    (answered : gattAttrRead link.value offset chunk = some bytes) :
    (link.receive offset bytes).got <+: link.value ∧ offset + bytes.length ≤ (link.receive offset bytes).got.length := by
  simp only [gattAttrRead] at answered
  split at answered
  · cases answered
  · cases answered
    simp only [receive]
    split
    · rename_i short
      exact ⟨ahead, short⟩
    · have first : link.got.take offset = link.value.take offset := by
        rw [List.prefix_iff_eq_take.mp ahead, List.take_take, Nat.min_eq_left noGap]
      have joined : link.got.take offset ++ (link.value.drop offset).take chunk = link.value.take (offset + chunk) := by
        rw [first, List.take_add]
      refine ⟨?_, ?_⟩
      · simp only [joined]
        exact List.take_prefix _ _
      · simp only [List.length_append, List.length_take]
        omega

/-! ### The steps -/

variable {encode : FromRadio → Option Octets} {link next : FromRadioLink}

theorem Faithful.enqueue (faithful : link.Faithful) (message : FromRadio) :
    Faithful { link with api := (link.api.enqueueFromradio encode message).1 } := by
  obtain ⟨sameValid, sameCurrent⟩ := enqueue_current encode link.api message
  refine ⟨?_, faithful.window, ?_, ?_, faithful.reading, faithful.ending, faithful.read⟩
  · have account := faithful.account
    simp only [held] at account ⊢
    rw [sameValid, sameCurrent]
    exact account
  · rw [sameValid, sameCurrent]
    exact faithful.stagedHeld
  · rw [sameValid, sameCurrent]
    exact faithful.readyHeld

theorem Faithful.check (faithful : link.Faithful) (moved : link.step encode .check = some next) : next.Faithful := by
  simp only [step] at moved
  split at moved
  · cases moved
    split
    · exact faithful
    · rename_i resting unready
      refine ⟨faithful.account, ?_, (fun staged => nomatch staged), faithful.readyHeld, faithful.reading,
        faithful.ending, faithful.read⟩
      intro _
      simpa using unready
  · cases moved

theorem Faithful.not_ending (faithful : link.Faithful) (unready : link.ready = false) :
    link.reader ≠ .ending false := by
  intro ends
  rw [faithful.ending ends] at unready
  cases unready

theorem Faithful.of_unready (faithful : link.Faithful) (unready : link.ready = false) :
    link.readFrames = link.released.map ApiFrame.data ∧ (link.ended = false → link.value = []) := by
  have read := faithful.read
  rw [if_neg (faithful.not_ending unready)] at read
  refine ⟨read, ?_⟩
  intro unended
  by_contra bytes
  have ready := ((faithful.reading unended).2.2 bytes).1
  rw [unready] at ready
  cases ready

theorem Faithful.stageNothing (faithful : link.Faithful) (unready : link.ready = false)
    (free : link.api.currentValid = false) {api : PhoneApi} (stillFree : api.currentValid = false) :
    Faithful { link with api := api, handler := .idle } := by
  refine ⟨?_, (fun busy => absurd rfl busy), (fun staged => nomatch staged), ?_, faithful.reading,
    faithful.ending, faithful.read⟩
  · have account := faithful.account
    rw [held_of_free free] at account
    rw [held_of_free stillFree]
    exact account
  · intro ready
    rw [unready] at ready
    cases ready

theorem Faithful.stageFrame (faithful : link.Faithful) (unready : link.ready = false) {api : PhoneApi}
    {frame : ApiFrame} (valid : api.currentValid = true) (current : api.current = frame)
    (same : link.api.currentValid = true → frame = link.api.current) :
    Faithful
      { link with
        api := api
        handler := .staged
        staged := frame
        taken := if link.api.currentValid then link.taken else link.taken ++ [frame] } := by
  obtain ⟨read, unread⟩ := faithful.of_unready unready
  refine ⟨?_, (fun _ => unready), (fun _ => ⟨valid, current.symm⟩), ?_, ?_, faithful.ending, ?_⟩
  · have account := faithful.account
    rw [held_of_valid valid]
    cases was : link.api.currentValid with
    | true =>
      rw [held_of_valid was] at account
      simp only [if_true]
      rw [account, current, same was]
    | false =>
      rw [held_of_free was, List.append_nil] at account
      simp only [Bool.false_eq_true, if_false]
      rw [account, current]
  · intro ready
    rw [unready] at ready
    cases ready
  · intro unended
    obtain ⟨idle, ahead, -⟩ := faithful.reading unended
    exact ⟨idle, ahead, fun bytes => absurd (unread unended) bytes⟩
  · rw [if_neg (faithful.not_ending unready)]
    exact read

theorem Faithful.stage (faithful : link.Faithful) {sources : PhoneSources}
    (moved : link.step encode (.stage sources) = some next) : next.Faithful := by
  simp only [step] at moved
  split at moved
  · rename_i checked
    have unready : link.ready = false := by
      apply faithful.window
      rw [checked]
      decide
    have cases := currentFrame_cases encode sources link.api
    generalize link.api.currentFrame encode sources = result at moved cases
    obtain ⟨api, shown⟩ := result
    rcases cases with ⟨none, free, stillFree⟩ | ⟨frame, some, valid, current, same⟩
    · change shown = _ at none
      rw [none] at moved
      cases moved
      exact faithful.stageNothing unready free stillFree
    · change shown = _ at some
      rw [some] at moved
      cases moved
      exact faithful.stageFrame unready valid current same
  · cases moved

theorem Faithful.publish (faithful : link.Faithful) (moved : link.step encode .publish = some next) :
    next.Faithful := by
  simp only [step] at moved
  split at moved
  · rename_i staged
    cases moved
    have unready : link.ready = false := by
      apply faithful.window
      rw [staged]
      decide
    refine ⟨faithful.account, (fun busy => absurd rfl busy), (fun again => nomatch again), ?_, ?_, (fun _ => rfl),
      faithful.read⟩
    · intro _ _
      exact faithful.stagedHeld staged
    · intro unended
      obtain ⟨idle, ahead, loaded⟩ := faithful.reading unended
      exact ⟨idle, ahead, fun bytes => ⟨rfl, (loaded bytes).2⟩⟩
  · cases moved

theorem Faithful.ended_of_ending (faithful : link.Faithful) {again : Bool} (ends : link.reader = .ending again) :
    link.ended ≠ false := by
  intro unended
  have idle := (faithful.reading unended).1
  rw [ends] at idle
  cases idle

theorem Faithful.resting (faithful : link.Faithful) (ready : link.ready = true) : link.handler = .idle := by
  by_contra busy
  have unready := faithful.window busy
  rw [ready] at unready
  cases unready

theorem Faithful.releaseFirst (faithful : link.Faithful) (ends : link.reader = .ending false) :
    Faithful
      { link with
        api := link.api.releaseCurrentFrame
        reader := .released
        released := if link.api.currentValid then link.released ++ [link.api.current] else link.released } := by
  have account := faithful.account
  have read := faithful.read
  have ready := faithful.ending ends
  have idle := faithful.resting ready
  obtain ⟨valid, -⟩ := faithful.readyHeld ready (by rw [ends]; decide)
  rw [held_of_valid valid] at account
  rw [if_pos ends] at read
  refine ⟨?_, (fun busy => absurd idle busy), ?_, (fun _ released => absurd rfl released),
    (fun unended => absurd unended (faithful.ended_of_ending ends)), (fun ending => nomatch ending), ?_⟩
  · simp only [valid, if_true]
    rw [held_of_free rfl, List.append_nil]
    exact account
  · intro staged
    rw [idle] at staged
    cases staged
  · simp only [reduceCtorEq, if_false, valid, if_true]
    rw [read, account]

theorem Faithful.releaseAgain (faithful : link.Faithful) (ends : link.reader = .ending true)
    (free : link.api.currentValid = false) :
    Faithful
      { link with
        api := link.api.releaseCurrentFrame
        reader := .released
        released := if link.api.currentValid then link.released ++ [link.api.current] else link.released } := by
  have account := faithful.account
  have read := faithful.read
  rw [held_of_free free] at account
  rw [if_neg (by rw [ends]; decide)] at read
  refine ⟨?_, faithful.window, ?_, (fun _ released => absurd rfl released),
    (fun unended => absurd unended (faithful.ended_of_ending ends)), (fun ending => nomatch ending), ?_⟩
  · simp only [free, Bool.false_eq_true, if_false]
    rw [held_of_free rfl]
    exact account
  · intro staged
    have valid := (faithful.stagedHeld staged).1
    rw [free] at valid
    cases valid
  · simp only [reduceCtorEq, if_false, free, Bool.false_eq_true]
    exact read

theorem Faithful.release (faithful : link.Faithful) (careful : link.Careful .release)
    (moved : link.step encode .release = some next) : next.Faithful := by
  simp only [step] at moved
  split at moved
  · rename_i again ends
    cases moved
    cases again with
    | false => exact faithful.releaseFirst ends
    | true => exact faithful.releaseAgain ends (careful ends)
  · cases moved

theorem Faithful.clear (faithful : link.Faithful) (moved : link.step encode .clear = some next) : next.Faithful := by
  have read := faithful.read
  simp only [step] at moved
  split at moved
  · rename_i released
    cases moved
    rw [if_neg (by rw [released]; decide)] at read
    refine ⟨faithful.account, (fun _ => rfl), faithful.stagedHeld, (fun ready => nomatch ready), ?_,
      (fun ending => nomatch ending), ?_⟩
    · intro unended
      have idle := (faithful.reading unended).1
      rw [released] at idle
      cases idle
    · rw [if_neg (fun ending => nomatch ending)]
      exact read
  · cases moved

/-! ### Reading -/

theorem Faithful.load (faithful : link.Faithful) (resting : link.reader = .idle) (offset : Nat) :
    (link.load offset).Faithful ∧ (link.load offset).reader = .idle := by
  by_cases start : offset = 0
  · simp only [FromRadioLink.load, start, if_true]
    refine ⟨⟨faithful.account, faithful.window, faithful.stagedHeld, faithful.readyHeld, ?_, faithful.ending,
      faithful.read⟩, resting⟩
    intro _
    refine ⟨resting, List.nil_prefix, ?_⟩
    intro bytes
    by_cases ready : link.ready = true
    · exact ⟨ready, if_pos ready⟩
    · exact absurd (if_neg ready) bytes
  · simp only [FromRadioLink.load, start, if_false]
    exact ⟨faithful, resting⟩

theorem Faithful.receive (faithful : link.Faithful) {offset chunk : Nat} {bytes : Octets}
    (noGap : offset ≤ link.got.length) (answered : gattAttrRead link.value offset chunk = some bytes) :
    (link.receive offset bytes).Faithful := by
  by_cases known : offset + bytes.length ≤ link.got.length
  · simp only [FromRadioLink.receive, known, if_true]
    exact faithful
  · have joined : link.receive offset bytes = { link with got := link.got.take offset ++ bytes } := if_neg known
    rw [joined]
    refine ⟨faithful.account, faithful.window, faithful.stagedHeld, faithful.readyHeld, ?_, faithful.ending,
      faithful.read⟩
    intro unended
    obtain ⟨resting, ahead, loaded⟩ := faithful.reading unended
    have longer := (receive_ahead ahead noGap answered).1
    rw [joined] at longer
    exact ⟨resting, longer, loaded⟩

theorem Faithful.reach (faithful : link.Faithful) (resting : link.reader = .idle) (some_bytes : link.value ≠ [])
    (whole : link.ended = false → link.value.length ≤ link.got.length) : link.reach.Faithful := by
  have read := faithful.read
  have notEnding : link.reader ≠ .ending false := by
    rw [resting]
    decide
  rw [if_neg notEnding] at read
  cases completed : link.ended with
  | true =>
    refine ⟨faithful.account, faithful.window, faithful.stagedHeld, ?_, (fun unended => nomatch unended), ?_, ?_⟩
    · intro ready _
      exact faithful.readyHeld ready (by rw [resting]; decide)
    · intro ends
      simp only [FromRadioLink.reach, completed] at ends
      cases ends
    · simp only [FromRadioLink.reach, completed, if_true, ReadPhase.ending.injEq, Bool.true_eq_false, if_false]
      exact read
  | false =>
    obtain ⟨-, ahead, loaded⟩ := faithful.reading completed
    obtain ⟨ready, content⟩ := loaded some_bytes
    obtain ⟨valid, same⟩ := faithful.readyHeld ready (by rw [resting]; decide)
    have complete : link.got = link.api.current.data := by
      rw [ahead.eq_of_length_le (whole completed), content, same]
    have account := faithful.account
    rw [held_of_valid valid] at account
    refine ⟨faithful.account, faithful.window, faithful.stagedHeld, ?_, (fun unended => nomatch unended),
      (fun _ => ready), ?_⟩
    · exact fun _ _ => ⟨valid, same⟩
    · simp only [FromRadioLink.reach, completed, Bool.false_eq_true, if_false, if_true]
      rw [read, account, complete, List.map_append]
      rfl

theorem load_got (link : FromRadioLink) {offset : Nat} (careful : offset ≠ 0 → offset ≤ link.got.length) :
    offset ≤ (link.load offset).got.length := by
  by_cases start : offset = 0
  · omega
  · simp only [FromRadioLink.load, start, if_false]
    exact careful start

theorem receive_frame (link : FromRadioLink) (offset : Nat) (bytes : Octets) :
    (link.receive offset bytes).value = link.value ∧ (link.receive offset bytes).ended = link.ended ∧
      (link.receive offset bytes).reader = link.reader := by
  simp only [FromRadioLink.receive]
  split <;> exact ⟨rfl, rfl, rfl⟩

theorem Faithful.readFromradio (faithful : link.Faithful) (resting : link.reader = .idle) {offset chunk : Nat}
    (careful : link.Careful (.read offset chunk)) : (link.readFromradio offset chunk).Faithful := by
  obtain ⟨loaded, stillIdle⟩ := faithful.load resting offset
  have noGap := link.load_got careful
  simp only [FromRadioLink.readFromradio]
  generalize link.load offset = before at loaded stillIdle noGap
  cases answered : gattAttrRead before.value offset chunk with
  | none => exact loaded
  | some bytes =>
    have received := loaded.receive noGap answered
    obtain ⟨sameValue, sameEnded, sameReader⟩ := before.receive_frame offset bytes
    dsimp only
    split
    · rename_i ends
      rw [sameValue] at ends
      apply received.reach
      · rw [sameReader]
        exact stillIdle
      · rw [sameValue]
        intro empty
        rw [empty] at ends
        exact Nat.lt_irrefl 0 ends.1
      · rw [sameValue, sameEnded]
        intro unended
        have ahead := (loaded.reading unended).2.1
        have enough := (receive_ahead ahead noGap answered).2
        omega
    · exact received

theorem Faithful.step (encode : FromRadio → Option Octets) (link : FromRadioLink) (move : FromRadioMove)
    (next : FromRadioLink) (faithful : link.Faithful) (careful : link.Careful move)
    (moved : link.step encode move = some next) : next.Faithful := by
  cases move with
  | enqueue message =>
    cases moved
    exact faithful.enqueue message
  | check => exact faithful.check moved
  | stage sources => exact faithful.stage moved
  | publish => exact faithful.publish moved
  | read offset chunk =>
    cases resting : link.reader with
    | idle =>
      simp only [FromRadioLink.step, resting] at moved
      cases moved
      exact faithful.readFromradio resting careful
    | ending again =>
      simp only [FromRadioLink.step, resting] at moved
      cases moved
    | released =>
      simp only [FromRadioLink.step, resting] at moved
      cases moved
  | release => exact faithful.release careful moved
  | clear => exact faithful.clear moved

theorem start_faithful {api : PhoneApi} (free : api.currentValid = false) : Faithful { api := api } := by
  refine ⟨?_, (fun busy => absurd rfl busy), (fun staged => nomatch staged), (fun ready => nomatch ready),
    (fun unended => nomatch unended), (fun ending => nomatch ending), rfl⟩
  rw [held_of_free free]
  rfl

end FromRadioLink

/-- No frame is released before the client has all of it, and the client reads the frames taken from the
queue, each once and in order: as long as it leaves no gaps and does not read on past the end of a frame
when the next one is already held. -/
theorem fromradio_frames_not_lost (encode : FromRadio → Option Octets) (api : PhoneApi)
    (free : api.currentValid = false) {moves : List FromRadioMove} {last : FromRadioLink}
    (careful : Transition.Guarded (FromRadioLink.step encode) FromRadioLink.Careful { api := api } moves)
    (whole : Transition.run (FromRadioLink.step encode) { api := api } moves = some last) :
    last.released.map ApiFrame.data <+: last.readFrames ∧
      last.readFrames <+: last.taken.map ApiFrame.data ∧ last.taken = last.released ++ last.held := by
  have faithful := Transition.run_invariant (FromRadioLink.Faithful.step encode) (FromRadioLink.start_faithful free)
    careful whole
  have ahead : last.released <+: last.taken := by
    rw [faithful.account]
    exact List.prefix_append _ _
  refine ⟨?_, ?_, faithful.account⟩
  · rw [faithful.read]
    split
    · exact ahead.map _
    · exact List.prefix_rfl
  · rw [faithful.read]
    split
    · exact List.prefix_rfl
    · exact ahead.map _

def firstFrameRead : List FromRadioMove :=
  [.enqueue (liveMessage 1), .enqueue (liveMessage 2), .check, .stage plainSources, .publish,
    .read 0 3, .read 3 3, .release, .clear, .check, .stage plainSources, .publish]

def carefulReads : List FromRadioMove := firstFrameRead ++ [.read 0 512, .release, .clear]

def oneReadMore : List FromRadioMove := firstFrameRead ++ [.read 4 512, .release, .clear]

def freshFromRadio : FromRadioLink := { api := phoneapiInit (fun _ => .blank) 4 }

theorem carefulReads_complete :
    (Transition.run (FromRadioLink.step numberOnly) freshFromRadio carefulReads).isSome := by decide +kernel

theorem fromradio_frames_not_lost_two_frames :
    ∃ last, Transition.run (FromRadioLink.step numberOnly) freshFromRadio carefulReads = some last ∧
      last.released.map ApiFrame.data <+: last.readFrames ∧ last.readFrames = [le32 1, le32 2] := by
  have whole := (Option.some_get carefulReads_complete).symm
  have kept := fromradio_frames_not_lost numberOnly (phoneapiInit (fun _ => .blank) 4) rfl
    (by decide +kernel) whole
  exact ⟨_, whole, kept.1, by decide +kernel⟩

theorem oneReadMore_complete :
    (Transition.run (FromRadioLink.step numberOnly) freshFromRadio oneReadMore).isSome := by decide +kernel

/-- The second frame is released, and the client has not had a byte of it. -/
theorem fromradio_frame_lost :
    ∃ last, Transition.run (FromRadioLink.step numberOnly) freshFromRadio oneReadMore = some last ∧
      last.released = [liveFrame 1, liveFrame 2] ∧ last.readFrames = [le32 1] ∧
      ¬ last.released.map ApiFrame.data <+: last.readFrames := by
  refine ⟨_, (Option.some_get oneReadMore_complete).symm, ?_, ?_, ?_⟩
  · decide +kernel
  · decide +kernel
  · decide +kernel

end Meshtastic
