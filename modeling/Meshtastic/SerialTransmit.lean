import Meshtastic.PhoneHandshake
import Meshtastic.Serial

/-! The transmit side of the serial phone API (`meshtastic_serial.c`). The work handler takes pending
frames from the phone API one by one and puts their encodings in a ring that the UART empties; a frame
that does not fit goes back to the front of the queue. -/

namespace Meshtastic
open Bytes

/-! ## The handler -/

/-- The port with its TX ring, oldest byte first. `uart` is what the UART has taken out of the ring so
far; the code does not keep it. -/
structure SerialTx where
  api : PhoneApi
  txCapacity : Nat
  txRing : Octets := []
  uart : Octets := []

namespace SerialTx

def stream (port : SerialTx) : Octets := port.uart ++ port.txRing

/-- `serial_isr_tx`: the UART takes at most so many bytes. -/
def serialIsrTx (port : SerialTx) (bytes : Nat) : SerialTx :=
  { port with txRing := port.txRing.drop bytes, uart := port.uart ++ port.txRing.take bytes }

def txSpace (port : SerialTx) : Nat := port.txCapacity - port.txRing.length

/-- `serial_tx_queue`; `none` when there is no space. -/
def serialTxQueue (port : SerialTx) (data : Octets) : Option SerialTx :=
  if port.txSpace ≥ data.length then some { port with txRing := port.txRing ++ data } else none

def pushFromradio (port : SerialTx) (frame : ApiFrame) : SerialTx :=
  { port with api := port.api.pushFrameFront frame }

end SerialTx

/-- What one round of the handler meets: the sources of a configuration frame, and how much the UART takes
before the first and before the second look at the space in the ring. -/
structure TxRound where
  sources : PhoneSources
  before : Nat := 0
  between : Nat := 0

/-- `tx_work_handler`, for as many rounds as are given; `none` when they do not reach its end. -/
def txWorkHandler (encode : FromRadio → Option Octets) : List TxRound → SerialTx → Option SerialTx
  | [], _ => none
  | round :: rest, port =>
    match port.api.popFrame encode round.sources with
    | (api, none) => some { port with api := api }
    | (api, some frame) =>
      let port := { port with api := api }
      match serialEncodeFrame frame.data SERIAL_WIRE_MAX with
      | none => txWorkHandler encode rest port
      | some wire =>
        let port := port.serialIsrTx round.before
        if port.txSpace < wire.length then some (port.pushFromradio frame)
        else
          let port := port.serialIsrTx round.between
          match port.serialTxQueue wire with
          | none => some (port.pushFromradio frame)
          | some port => txWorkHandler encode rest port

/-! ## Pending frames -/

def ApiFrame.wire (frame : ApiFrame) : Octets :=
  [SERIAL_START1, SERIAL_START2, UInt8.ofNat (frame.data.length / 2 ^ 8), UInt8.ofNat frame.data.length] ++ frame.data

/-- What is still to be sent: a frame in the queue, or a configuration step whose frame is not made yet. -/
inductive PendingFrame where
  | queued (frame : ApiFrame)
  | step (section_ : ConfigSection)
  deriving DecidableEq

def PhoneApi.pending (api : PhoneApi) : List PendingFrame :=
  api.view.queued.map .queued ++ api.cursor.remaining.map .step

/-- The frame of a pending item: the queued frame itself, or the encoding of a message about the section. -/
def PendingFrame.Is (encode : FromRadio → Option Octets) (frame : ApiFrame) : PendingFrame → Prop
  | .queued other => frame = other
  | .step section_ => ∃ message : FromRadio, encode message = some frame.data ∧
      frame.generated = some message.payload ∧ message.payload.section_ = section_

/-- One run of the handler sends the frames of a first part of what was pending, each whole and in order,
and the rest is pending as it was; the frame of a step that did not fit stands first in the queue instead
of the step. -/
structure SerialTx.Transfer (encode : FromRadio → Option Octets) (before after : SerialTx) (sent : List ApiFrame) :
    Prop where
  stream : after.stream = before.stream ++ sent.flatMap ApiFrame.wire
  pending : ∃ taken left, before.api.pending = taken ++ left ∧
    List.Forall₂ (PendingFrame.Is encode) sent taken ∧
    (after.api.pending = left ∨ ∃ item frame rest, left = item :: rest ∧ item.Is encode frame ∧
      after.api.pending = .queued frame :: rest)

section
variable {encode : FromRadio → Option Octets}

/-! ## States of the phone API -/

/-- The ring is in shape and the handshake is at one of its steps. -/
structure PhoneApi.Sound (api : PhoneApi) : Prop where
  shape : api.Wellformed
  valid : api.cursor.Valid

theorem nextConfigFrame_valid (sources : PhoneSources) (queueSize count : UInt8) {cursor : ConfigCursor}
    (valid : cursor.Valid) : (nextConfigFrame encode sources queueSize count cursor).2.Valid := by
  by_cases idle : cursor.state = .idle
  · rw [PhoneApi.nextConfigFrame_idle encode sources queueSize count idle]
    exact valid
  · exact (nextConfigFrame_advances sources queueSize count idle valid).valid

theorem PhoneApi.popFrame_valid {api : PhoneApi} (sources : PhoneSources) (valid : api.cursor.Valid) :
    (api.popFrame encode sources).1.cursor.Valid := by
  have next : (nextConfigFrame encode sources api.queueSize api.count api.cursor).2.Valid :=
    nextConfigFrame_valid sources api.queueSize api.count valid
  unfold popFrame
  split
  · split
    · split
      · rename_i made
        rw [made] at next
        exact next
      · rename_i failed
        rw [failed] at next
        exact next
    · exact valid
  · exact valid

theorem PhoneApi.currentFrame_valid {api : PhoneApi} (sources : PhoneSources) (valid : api.cursor.Valid) :
    (api.currentFrame encode sources).1.cursor.Valid := by
  cases held : api.currentValid with
  | true =>
    have kept : api.currentFrame encode sources = (api, some api.current) := by
      simp only [currentFrame, held, Bool.true_eq_false, false_and, if_false, if_true]
    rw [kept]
    exact valid
  | false =>
    have popped : (api.popFrame encode sources).1.cursor.Valid := popFrame_valid sources valid
    rw [(currentFrame_of_fresh encode sources held).2]
    split <;> exact popped

theorem PhoneApi.Sound.call {api : PhoneApi} (sound : api.Sound) (call : PhoneCall) :
    (api.call encode call).1.Sound := by
  refine ⟨(PhoneApi.call_simulates encode sound.shape call).1, ?_⟩
  have valid := sound.valid
  cases call with
  | enqueueFromradio message =>
    simp only [PhoneApi.call, enqueueFromradio]
    split
    · exact valid
    · split <;> exact valid
  | popFrame sources => exact popFrame_valid sources valid
  | pushFrameFront frame =>
    simp only [PhoneApi.call, pushFrameFront]
    split <;> exact valid
  | currentFrame sources => exact currentFrame_valid sources valid
  | releaseCurrentFrame => exact valid
  | currentFrameReset => exact valid
  | reset =>
    intro channels
    cases channels
  | enqueuePhoneConfig requestId =>
    intro channels
    cases channels

theorem PhoneApi.sound_of_calls (cells : Nat → ApiFrame) {size : UInt8} (room : size ≠ 0) (calls : List PhoneCall) :
    (Transition.answers (PhoneApi.call encode) (phoneapiInit cells size) calls).1.Sound :=
  Transition.answers_invariant PhoneApi.Sound (fun _ call sound => sound.call call)
    ⟨PhoneApi.init_wellformed cells room, fun channels => nomatch channels⟩ calls

/-! ## Taking and putting back -/

theorem PhoneApi.pending_eq (api : PhoneApi) :
    api.pending = api.view.queued.map .queued ++ api.cursor.remaining.map .step := rfl

theorem PhoneApi.Sound.popFrame_queued {api next : PhoneApi} (sound : api.Sound) {sources : PhoneSources}
    {oldest : ApiFrame} {rest : List ApiFrame} {ret : Option ApiFrame} (listed : api.view.queued = oldest :: rest)
    (popped : api.popFrame encode sources = (next, ret)) :
    ret = some oldest ∧ next.view.queued = rest ∧ next.cursor = api.cursor := by
  have same := (popFrame_simulates encode sound.shape sources).2
  rw [popped] at same
  simp only [PhoneQueue.takeNext, listed, Prod.mk.injEq] at same
  obtain ⟨after, taken⟩ := same
  exact ⟨taken.symm, (congrArg PhoneQueue.queued after).symm, (congrArg PhoneQueue.cursor after).symm⟩

theorem PhoneApi.Sound.popFrame_step {api next : PhoneApi} (sound : api.Sound) {sources : PhoneSources}
    {ret : Option ApiFrame} (listed : api.view.queued = []) (popped : api.popFrame encode sources = (next, ret)) :
    next.view.queued = [] ∧ (ret = none ∧ next.cursor.remaining = api.cursor.remaining ∨
      ∃ frame section_, ret = some frame ∧ (PendingFrame.step section_).Is encode frame ∧
        api.cursor.remaining = section_ :: next.cursor.remaining) := by
  have same := (popFrame_simulates encode sound.shape sources).2
  have viewed : api.view.cursor = api.cursor := rfl
  rw [popped] at same
  simp only [PhoneQueue.takeNext, listed, viewed] at same
  by_cases idle : api.cursor.state = .idle
  · rw [nextConfigFrame_idle encode sources _ _ idle] at same
    simp only [Prod.mk.injEq] at same
    obtain ⟨after, taken⟩ := same
    have cursor : next.cursor = api.cursor := (congrArg PhoneQueue.cursor after).symm
    exact ⟨(congrArg PhoneQueue.queued after).symm, Or.inl ⟨taken.symm, by rw [cursor]⟩⟩
  · have advances : Advances encode (nextConfigFrame encode sources api.queueSize 0 api.cursor) api.cursor.remaining :=
      nextConfigFrame_advances sources api.queueSize 0 idle sound.valid
    generalize nextConfigFrame encode sources api.queueSize 0 api.cursor = result at advances same
    obtain ⟨outcome, cursor⟩ := result
    cases outcome with
    | error err =>
      simp only [Prod.mk.injEq] at same
      obtain ⟨after, taken⟩ := same
      have moved : next.cursor = cursor := (congrArg PhoneQueue.cursor after).symm
      have kept : cursor.remaining = api.cursor.remaining := advances.kept err rfl
      exact ⟨(congrArg PhoneQueue.queued after).symm, Or.inl ⟨taken.symm, by rw [moved, kept]⟩⟩
    | ok made =>
      simp only [Prod.mk.injEq] at same
      obtain ⟨after, taken⟩ := same
      have moved : next.cursor = cursor := (congrArg PhoneQueue.cursor after).symm
      obtain ⟨message, written, generated, due⟩ := advances.made made rfl
      refine ⟨(congrArg PhoneQueue.queued after).symm, Or.inr ⟨made, message.payload.section_, taken.symm, ?_, ?_⟩⟩
      · exact ⟨message, written, generated, rfl⟩
      · rw [moved, ← due]

theorem PhoneApi.Sound.popFrame_some {api next : PhoneApi} (sound : api.Sound) {sources : PhoneSources}
    {frame : ApiFrame} (popped : api.popFrame encode sources = (next, some frame)) :
    next.Sound ∧ next.view.queued.length < next.queueSize.toNat ∧
      ∃ item, item.Is encode frame ∧ api.pending = item :: next.pending := by
  have soundNext : next.Sound := by
    have called : (api.call encode (.popFrame sources)).1.Sound := sound.call (.popFrame sources)
    simp only [PhoneApi.call, popped] at called
    exact called
  have size : next.queueSize = api.queueSize := by
    have called := call_queueSize encode api (.popFrame sources)
    simp only [PhoneApi.call, popped] at called
    exact called
  refine ⟨soundNext, ?_⟩
  cases listed : api.view.queued with
  | cons oldest rest =>
    obtain ⟨taken, queued, cursor⟩ := sound.popFrame_queued listed popped
    have bounded := sound.shape.count_le
    have counted := length_view api
    rw [listed, List.length_cons] at counted
    refine ⟨by rw [queued, size]; omega, .queued oldest, Option.some.inj taken, ?_⟩
    rw [pending_eq, pending_eq, listed, queued, cursor]
    rfl
  | nil =>
    obtain ⟨queued, nothing | made⟩ := sound.popFrame_step listed popped
    · cases nothing.1
    · obtain ⟨generated, section_, same, is, due⟩ := made
      cases same
      refine ⟨by rw [queued]; exact soundNext.shape.room, .step section_, is, ?_⟩
      rw [pending_eq, pending_eq, listed, queued, due]
      rfl

theorem PhoneApi.Sound.popFrame_none {api next : PhoneApi} (sound : api.Sound) {sources : PhoneSources}
    (popped : api.popFrame encode sources = (next, none)) : next.pending = api.pending := by
  cases listed : api.view.queued with
  | cons oldest rest => cases (sound.popFrame_queued listed popped).1
  | nil =>
    obtain ⟨queued, nothing | made⟩ := sound.popFrame_step listed popped
    · rw [pending_eq, pending_eq, listed, queued, nothing.2]
    · obtain ⟨generated, section_, same, -⟩ := made
      cases same

theorem PhoneApi.Sound.pushFrameFront_pending {api : PhoneApi} (sound : api.Sound)
    (room : api.view.queued.length < api.queueSize.toNat) (frame : ApiFrame) :
    (api.pushFrameFront frame).pending = .queued frame :: api.pending := by
  have same := (pushFrameFront_simulates sound.shape frame).2
  have queued := congrArg PhoneQueue.queued same
  have cursor : (api.pushFrameFront frame).cursor = api.cursor := congrArg PhoneQueue.cursor same
  simp only [Deque.pushOldest, if_neg (Nat.ne_of_lt room)] at queued
  rw [pending_eq, pending_eq, queued, cursor]
  rfl

/-! ## The ring -/

theorem serialEncodeFrame_wire (frame : ApiFrame) : serialEncodeFrame frame.data SERIAL_WIRE_MAX = some frame.wire := by
  have fits := frame.fits
  have limits : SERIAL_WIRE_MAX = API_FRAME_MAX + SERIAL_HEADER := rfl
  unfold serialEncodeFrame
  rw [if_neg (by omega)]
  rfl

theorem ApiFrame.length_wire (frame : ApiFrame) : frame.wire.length = frame.data.length + SERIAL_HEADER := by
  simp [wire, SERIAL_HEADER]

@[simp] theorem SerialTx.serialIsrTx_stream (port : SerialTx) (bytes : Nat) :
    (port.serialIsrTx bytes).stream = port.stream := by
  simp only [stream, serialIsrTx, List.append_assoc, List.take_append_drop]

theorem SerialTx.serialIsrTx_space (port : SerialTx) (bytes : Nat) : port.txSpace ≤ (port.serialIsrTx bytes).txSpace := by
  simp only [txSpace, serialIsrTx, List.length_drop]
  omega

theorem SerialTx.serialTxQueue_of_space {port : SerialTx} {data : Octets} (space : data.length ≤ port.txSpace) :
    port.serialTxQueue data = some { port with txRing := port.txRing ++ data } := if_pos space

theorem SerialTx.append_stream (port : SerialTx) (data : Octets) :
    ({ port with txRing := port.txRing ++ data } : SerialTx).stream = port.stream ++ data := by
  simp only [stream, List.append_assoc]

/-! ## One run of the handler -/

theorem txWorkHandler_cons (round : TxRound) (rest : List TxRound) (port : SerialTx) :
    (∃ api, port.api.popFrame encode round.sources = (api, none) ∧
      txWorkHandler encode (round :: rest) port = some { port with api := api }) ∨
    ∃ api frame, port.api.popFrame encode round.sources = (api, some frame) ∧
      let looked := { port with api := api }.serialIsrTx round.before
      (looked.txSpace < frame.wire.length ∧
        txWorkHandler encode (round :: rest) port = some (looked.pushFromradio frame) ∨
      frame.wire.length ≤ looked.txSpace ∧
        let room := looked.serialIsrTx round.between
        txWorkHandler encode (round :: rest) port =
          txWorkHandler encode rest { room with txRing := room.txRing ++ frame.wire }) := by
  cases popped : port.api.popFrame encode round.sources with
  | mk api taken =>
    cases taken with
    | none => exact Or.inl ⟨api, rfl, by simp only [txWorkHandler, popped]⟩
    | some frame =>
      refine Or.inr ⟨api, frame, rfl, ?_⟩
      intro looked
      by_cases full : looked.txSpace < frame.wire.length
      · refine Or.inl ⟨full, ?_⟩
        simp only [txWorkHandler, popped, serialEncodeFrame_wire]
        exact if_pos full
      · refine Or.inr ⟨Nat.not_lt.mp full, ?_⟩
        intro room
        have space : frame.wire.length ≤ room.txSpace :=
          (Nat.not_lt.mp full).trans (looked.serialIsrTx_space round.between)
        have queued := SerialTx.serialTxQueue_of_space space
        simp only [txWorkHandler, popped, serialEncodeFrame_wire]
        rw [if_neg full]
        simp only [room, looked] at queued ⊢
        rw [queued]

theorem SerialTx.Transfer.cons {before mid after : SerialTx} {frame : ApiFrame} {item : PendingFrame}
    {sent : List ApiFrame} (stream : mid.stream = before.stream ++ frame.wire) (is : item.Is encode frame)
    (pending : before.api.pending = item :: mid.api.pending) (later : mid.Transfer encode after sent) :
    before.Transfer encode after (frame :: sent) where
  stream := by
    rw [later.stream, stream, List.flatMap_cons, List.append_assoc]
  pending := by
    obtain ⟨taken, left, whole, each, rest⟩ := later.pending
    exact ⟨item :: taken, left, by rw [pending, whole]; rfl, .cons is each, rest⟩

theorem txWorkHandler_transfers {rounds : List TxRound} {port last : SerialTx} (sound : port.api.Sound)
    (ran : txWorkHandler encode rounds port = some last) : ∃ sent, port.Transfer encode last sent := by
  induction rounds generalizing port with
  | nil => cases ran
  | cons round rest ih =>
    rcases txWorkHandler_cons round rest port with ⟨api, popped, ended⟩ | ⟨api, frame, popped, full | fits⟩
    · rw [ended] at ran
      cases ran
      refine ⟨[], (List.append_nil _).symm, [], port.api.pending, rfl, .nil, Or.inl ?_⟩
      exact sound.popFrame_none popped
    · rw [full.2] at ran
      cases ran
      obtain ⟨soundNext, room, item, is, pending⟩ := sound.popFrame_some popped
      refine ⟨[], ?_, [], port.api.pending, rfl, .nil, Or.inr ⟨item, frame, api.pending, pending, is, ?_⟩⟩
      · exact (({ port with api := api } : SerialTx).serialIsrTx_stream round.before).trans (List.append_nil _).symm
      · exact soundNext.pushFrameFront_pending room frame
    · obtain ⟨soundNext, -, item, is, pending⟩ := sound.popFrame_some popped
      rw [fits.2] at ran
      obtain ⟨sent, later⟩ := ih soundNext ran
      refine ⟨frame :: sent, later.cons ?_ is pending⟩
      rw [SerialTx.append_stream, SerialTx.serialIsrTx_stream, SerialTx.serialIsrTx_stream]
      rfl

/-- As many rounds as frames are pending, and one to see that none is left, are enough. -/
theorem txWorkHandler_ends {rounds : List TxRound} {port : SerialTx} (sound : port.api.Sound)
    (enough : port.api.pending.length < rounds.length) : (txWorkHandler encode rounds port).isSome := by
  induction rounds generalizing port with
  | nil => cases enough
  | cons round rest ih =>
    rcases txWorkHandler_cons round rest port with ⟨api, -, ended⟩ | ⟨api, frame, popped, full | fits⟩
    · rw [ended]
      rfl
    · rw [full.2]
      rfl
    · obtain ⟨soundNext, -, item, -, pending⟩ := sound.popFrame_some popped
      rw [pending, List.length_cons, List.length_cons] at enough
      rw [fits.2]
      exact ih soundNext (by simp only [SerialTx.serialIsrTx]; omega)

end

/-- In every state of the phone API one run of the handler sends a first part of the pending frames, each
whole and in order, and leaves the rest pending in the same order. -/
theorem serial_tx_conserves (encode : FromRadio → Option Octets) (cells : Nat → ApiFrame) (size : UInt8)
    (room : size ≠ 0) (calls : List PhoneCall) (port : SerialTx)
    (reached : port.api = (Transition.answers (PhoneApi.call encode) (phoneapiInit cells size) calls).1)
    (rounds : List TxRound) :
    (port.api.pending.length < rounds.length → (txWorkHandler encode rounds port).isSome) ∧
      ∀ last, txWorkHandler encode rounds port = some last → ∃ sent, port.Transfer encode last sent := by
  have sound : port.api.Sound := by
    rw [reached]
    exact PhoneApi.sound_of_calls cells room calls
  exact ⟨txWorkHandler_ends sound, fun last ran => txWorkHandler_transfers sound ran⟩

def handshakePort : SerialTx where
  api := (Transition.answers (PhoneApi.call numberOnly) (phoneapiInit (fun _ => .blank) 8) [.enqueuePhoneConfig 7]).1
  txCapacity := 256

theorem handshakePort_ends :
    (txWorkHandler numberOnly (List.replicate 41 { sources := plainSources }) handshakePort).isSome := by
  decide +kernel

/-- The ring takes the first 32 frames; the 33rd is made and put back. -/
theorem serial_tx_conserves_handshake :
    ∃ last sent, txWorkHandler numberOnly (List.replicate 41 { sources := plainSources }) handshakePort = some last ∧
      handshakePort.Transfer numberOnly last sent ∧ last.txRing.length = 256 ∧ last.api.count = 1 ∧
      last.api.cursor.state = .modules ∧ last.api.cursor.index = 11 := by
  have conserves := serial_tx_conserves numberOnly (fun _ => .blank) 8 (by decide) [.enqueuePhoneConfig 7]
    handshakePort rfl (List.replicate 41 { sources := plainSources })
  have ran := (Option.some_get handshakePort_ends).symm
  obtain ⟨sent, transfer⟩ := conserves.2 _ ran
  exact ⟨_, sent, ran, transfer, by decide +kernel, by decide +kernel, by decide +kernel, by decide +kernel⟩

/-! ## Progress -/

def SerialTx.Progresses (encode : FromRadio → Option Octets) (before after : SerialTx) : Prop :=
  before.api.pending ≠ [] → ∃ sent, before.Transfer encode after sent ∧ sent ≠ []

/-- The first pending frame fits into an empty ring of the given size: the oldest frame in the queue, or
else the next configuration frame, which must be encodable. -/
def PhoneApi.FrontFits (encode : FromRadio → Option Octets) (sources : PhoneSources) (api : PhoneApi)
    (capacity : Nat) : Prop :=
  match api.view.queued with
  | frame :: _ => frame.data.length + SERIAL_HEADER ≤ capacity
  | [] =>
    match (nextConfigFrame encode sources api.queueSize 0 api.cursor).1 with
    | .ok frame => frame.data.length + SERIAL_HEADER ≤ capacity
    | .error _ => False

instance (encode : FromRadio → Option Octets) (sources : PhoneSources) (api : PhoneApi) (capacity : Nat) :
    Decidable (api.FrontFits encode sources capacity) := by
  unfold PhoneApi.FrontFits
  split
  · infer_instance
  · split <;> infer_instance

section
variable {encode : FromRadio → Option Octets}

theorem PhoneApi.Sound.frontFits_iff {api next : PhoneApi} (sound : api.Sound) {sources : PhoneSources}
    {taken : Option ApiFrame} (popped : api.popFrame encode sources = (next, taken)) (capacity : Nat) :
    api.FrontFits encode sources capacity ↔
      ∃ frame, taken = some frame ∧ frame.data.length + SERIAL_HEADER ≤ capacity := by
  have same := congrArg Prod.snd (popFrame_simulates encode sound.shape sources).2
  rw [popped] at same
  unfold FrontFits
  have viewed : api.view.cursor = api.cursor := rfl
  cases listed : api.view.queued with
  | cons oldest rest =>
    simp only [PhoneQueue.takeNext, listed] at same
    simp [← same]
  | nil =>
    simp only [PhoneQueue.takeNext, listed, viewed] at same
    generalize nextConfigFrame encode sources api.queueSize 0 api.cursor = result at same ⊢
    obtain ⟨outcome, cursor⟩ := result
    cases outcome with
    | ok made => simp [← same]
    | error err => simp [← same]

theorem sent_eq_nil {sent : List ApiFrame} (nothing : sent.flatMap ApiFrame.wire = []) : sent = [] := by
  cases sent with
  | nil => rfl
  | cons frame rest => simp [ApiFrame.wire] at nothing

theorem SerialTx.Transfer.idle {before after : SerialTx} {sent : List ApiFrame}
    (transfer : before.Transfer encode after sent) (same : after.stream = before.stream) : sent = [] := by
  have stream := transfer.stream
  rw [same] at stream
  exact sent_eq_nil (List.append_cancel_left (stream.symm.trans (List.append_nil _).symm))

end

/-- With an empty ring of any size, the handler puts a frame in it exactly when the first pending frame fits. -/
theorem serial_tx_progresses_iff (encode : FromRadio → Option Octets) (cells : Nat → ApiFrame) (size : UInt8)
    (room : size ≠ 0) (calls : List PhoneCall) (port last : SerialTx)
    (reached : port.api = (Transition.answers (PhoneApi.call encode) (phoneapiInit cells size) calls).1)
    (empty : port.txRing = []) (round : TxRound) (rest : List TxRound)
    (ran : txWorkHandler encode (round :: rest) port = some last) :
    port.Progresses encode last ↔
      (port.api.pending ≠ [] → port.api.FrontFits encode round.sources port.txCapacity) := by
  have sound : port.api.Sound := by
    rw [reached]
    exact PhoneApi.sound_of_calls cells room calls
  have space : ∀ api, (({ port with api := api } : SerialTx).serialIsrTx round.before).txSpace = port.txCapacity := by
    intro api
    simp only [SerialTx.txSpace, SerialTx.serialIsrTx, empty, List.drop_nil, List.length_nil, Nat.sub_zero]
  apply imp_congr_right
  intro _
  rcases txWorkHandler_cons round rest port with ⟨api, popped, ended⟩ | ⟨api, frame, popped, full | fits⟩
  · rw [sound.frontFits_iff popped]
    rw [ended] at ran
    cases ran
    apply iff_of_false
    · intro moved
      obtain ⟨sent, transfer, some_⟩ := moved
      exact some_ (transfer.idle rfl)
    · intro taken
      obtain ⟨frame, same, -⟩ := taken
      cases same
  · rw [sound.frontFits_iff popped]
    rw [full.2] at ran
    cases ran
    have short := full.1
    rw [space, frame.length_wire] at short
    apply iff_of_false
    · intro moved
      obtain ⟨sent, transfer, some_⟩ := moved
      exact some_ (transfer.idle (SerialTx.serialIsrTx_stream _ _))
    · intro taken
      obtain ⟨other, same, small⟩ := taken
      cases same
      omega
  · rw [sound.frontFits_iff popped]
    rw [fits.2] at ran
    have small := fits.1
    rw [space, frame.length_wire] at small
    obtain ⟨soundNext, -, item, is, pending⟩ := sound.popFrame_some popped
    obtain ⟨sent, later⟩ := txWorkHandler_transfers soundNext ran
    refine iff_of_true ⟨frame :: sent, later.cons ?_ is pending, List.cons_ne_nil _ _⟩ ⟨frame, rfl, small⟩
    rw [SerialTx.append_stream, SerialTx.serialIsrTx_stream, SerialTx.serialIsrTx_stream]
    rfl

def packetOctets (message : FromRadio) : Option Octets :=
  match message.payload with
  | .packet mesh =>
    some (Protobuf.encodeFields (optionalField (message.id != 0) 1 (.varint message.id.toNat) ++
      [⟨2, .bytes (Protobuf.encodeFields (meshFields mesh))⟩]))
  | _ => numberOnly message

def longText : FromRadio :=
  { id := 1, payload := .packet
      { from_ := 0x33, to_ := NODE_BROADCAST, id := 9
        rxSnr := 6, rxRssi := -90, hopLimit := 3, hopStart := 3, relayNode := 0x33, transportMechanism := .lora
        payload := .decoded { portnum := PORT_TEXT_MESSAGE, payload := List.replicate 233 0x61 } } }

def longTextPort (capacity : Nat) : SerialTx where
  api := (Transition.answers (PhoneApi.call packetOctets) (phoneapiInit (fun _ => .blank) 8)
    [.enqueueFromradio longText]).1
  txCapacity := capacity

def twoRounds : List TxRound := [{ sources := plainSources }, { sources := plainSources }]

theorem longTextPort_ends : (txWorkHandler packetOctets twoRounds (longTextPort 2048)).isSome := by decide +kernel

theorem serial_tx_progresses_longText :
    ∃ last, txWorkHandler packetOctets twoRounds (longTextPort 2048) = some last ∧
      (longTextPort 2048).api.pending ≠ [] ∧ (longTextPort 2048).Progresses packetOctets last := by
  have ran := (Option.some_get longTextPort_ends).symm
  refine ⟨_, ran, by decide +kernel, ?_⟩
  exact (serial_tx_progresses_iff packetOctets (fun _ => .blank) 8 (by decide) [.enqueueFromradio longText]
    (longTextPort 2048) _ (by simp only [longTextPort]) (by simp only [longTextPort]) { sources := plainSources }
    [{ sources := plainSources }] ran).mpr (by decide +kernel)

theorem longTextPort_small_ends : (txWorkHandler packetOctets twoRounds (longTextPort 256)).isSome := by
  decide +kernel

/-- The smallest ring does not: the frame is put back, nothing is in the ring, and all is as before. -/
theorem serial_tx_stuck :
    ∃ last, txWorkHandler packetOctets twoRounds (longTextPort 256) = some last ∧
      (longTextPort 256).api.pending ≠ [] ∧ last.api.pending = (longTextPort 256).api.pending ∧ last.stream = [] ∧
      ¬(longTextPort 256).Progresses packetOctets last := by
  have ran := (Option.some_get longTextPort_small_ends).symm
  have stream : ((txWorkHandler packetOctets twoRounds (longTextPort 256)).get longTextPort_small_ends).stream = [] := by
    decide +kernel
  refine ⟨_, ran, by decide +kernel, by decide +kernel, stream, ?_⟩
  intro progresses
  obtain ⟨sent, transfer, some_⟩ := progresses (by decide +kernel)
  exact some_ (transfer.idle stream)

end Meshtastic
