import Meshtastic.Lib.Framing
import Meshtastic.PhoneApi

/-! The receive side of the serial phone API (`meshtastic_serial.c`): StreamAPI frames between two
start bytes and a length, read from a ring that the UART fills in pieces. -/

namespace Meshtastic
open Bytes

def SERIAL_START1 : UInt8 := 0x94
def SERIAL_START2 : UInt8 := 0xc3
def SERIAL_HEADER : Nat := 4
def SERIAL_WIRE_MAX : Nat := API_FRAME_MAX + SERIAL_HEADER

/-- `meshtastic_serial_encode_frame` into a buffer of `outLen` bytes; `none` where it returns 0. -/
def serialEncodeFrame (payload : Octets) (outLen : Nat) : Option Octets :=
  if payload.length > API_FRAME_MAX ∨ outLen < payload.length + SERIAL_HEADER then none
  else
    some ([SERIAL_START1, SERIAL_START2, UInt8.ofNat (payload.length / 2 ^ 8), UInt8.ofNat payload.length] ++ payload)

/-- What `serial_rx_pop_frame` did: returned 0, returned -1 after it discarded a byte, or returned 1
with a payload. The ring that is left comes with the last two. -/
inductive RxPop where
  | needMore
  | discarded (ring : Octets)
  | frame (payload ring : Octets)
  deriving DecidableEq

def serialRxPopFrame (ring : Octets) : RxPop :=
  match ring with
  | h0 :: h1 :: h2 :: h3 :: body =>
    if h0 ≠ SERIAL_START1 then .discarded (h1 :: h2 :: h3 :: body)
    else if h1 ≠ SERIAL_START2 then .discarded (h1 :: h2 :: h3 :: body)
    else
      let pktLen := h2.toNat * 2 ^ 8 + h3.toNat
      if pktLen > API_FRAME_MAX then .discarded (h1 :: h2 :: h3 :: body)
      else if ring.length < SERIAL_HEADER + pktLen then .needMore
      else .frame (body.take pktLen) (body.drop pktLen)
  | _ => .needMore

/-- One round of the loop in `rx_work_handler`: an empty frame is taken out and ignored. -/
def rxRound (ring : Octets) : Framing.Reading UInt8 Octets :=
  match serialRxPopFrame ring with
  | .needMore => .wait
  | .discarded rest => .step none rest
  | .frame [] rest => .step none rest
  | .frame (first :: more) rest => .step (some (first :: more)) rest

structure SerialPort where
  rxCapacity : Nat
  rxRing : Octets := []

/-- `serial_isr_rx` handing over what it read from the UART; `none` when the ring has no room for it. -/
def serialIsrRx (port : SerialPort) (chunk : Octets) : Option SerialPort :=
  if port.rxRing.length + chunk.length ≤ port.rxCapacity then some { port with rxRing := port.rxRing ++ chunk }
  else none

/-- `rx_work_handler` with a bound on the rounds of its loop: the payloads it passes to
`meshtastic_phoneapi_handle_toradio`, in order. -/
def rxWorkHandler (rounds : Nat) (port : SerialPort) : Option (List Octets × SerialPort) :=
  (Framing.drain rxRound rounds port.rxRing).map fun result => (result.1, { port with rxRing := result.2 })

def serialReceive (port : SerialPort) : List Octets → Option (List Octets × SerialPort)
  | [] => some ([], port)
  | chunk :: rest => do
    let filled ← serialIsrRx port chunk
    let (handed, drained) ← rxWorkHandler (filled.rxRing.length + 1) filled
    let (later, last) ← serialReceive drained rest
    some (handed ++ later, last)

/-! ## The reader -/

theorem rxRound_eq_step {ring rest : Octets} {found : Option Octets} (round : rxRound ring = .step found rest) :
    serialRxPopFrame ring = .discarded rest ∧ found = none ∨
      ∃ payload, serialRxPopFrame ring = .frame payload rest ∧ found = if payload = [] then none else some payload := by
  unfold rxRound at round
  split at round
  · cases round
  · rename_i popped
    cases round
    exact .inl ⟨popped, rfl⟩
  · rename_i popped
    cases round
    exact .inr ⟨[], popped, rfl⟩
  · rename_i popped
    cases round
    exact .inr ⟨_, popped, rfl⟩

theorem serialRxPopFrame_discarded {ring rest : Octets} (popped : serialRxPopFrame ring = .discarded rest) :
    rest.length < ring.length ∧ ∀ more, serialRxPopFrame (ring ++ more) = .discarded (rest ++ more) := by
  match ring, popped with
  | h0 :: h1 :: h2 :: h3 :: body, popped =>
    simp only [serialRxPopFrame] at popped
    constructor
    · split_ifs at popped <;> cases popped <;> simp
    · intro more
      simp only [List.cons_append, serialRxPopFrame]
      split_ifs at popped with first second long short <;> cases popped
      · rw [if_pos first]
        rfl
      · rw [if_neg first, if_pos second]
        rfl
      · rw [if_neg first, if_neg second, if_pos long]
        rfl

theorem serialRxPopFrame_frame {ring payload rest : Octets} (popped : serialRxPopFrame ring = .frame payload rest) :
    rest.length < ring.length ∧ ∀ more, serialRxPopFrame (ring ++ more) = .frame payload (rest ++ more) := by
  match ring, popped with
  | h0 :: h1 :: h2 :: h3 :: body, popped =>
    simp only [serialRxPopFrame] at popped
    split_ifs at popped with first second long short
    cases popped
    constructor
    · simp only [List.length_drop, List.length_cons]
      omega
    · intro more
      have whole : h2.toNat * 2 ^ 8 + h3.toNat ≤ body.length := by
        simp only [List.length_cons, SERIAL_HEADER] at short
        omega
      have longer :
          ¬ (h0 :: h1 :: h2 :: h3 :: (body ++ more)).length < SERIAL_HEADER + (h2.toNat * 2 ^ 8 + h3.toNat) := by
        simp only [List.length_cons, List.length_append, SERIAL_HEADER]
        omega
      simp only [List.cons_append, serialRxPopFrame]
      rw [if_neg first, if_neg second, if_neg long, if_neg longer, List.take_append_of_le_length whole,
        List.drop_append_of_le_length whole]

theorem rxRound_of_discarded {ring rest : Octets} (popped : serialRxPopFrame ring = .discarded rest) :
    rxRound ring = .step none rest := by
  simp only [rxRound, popped]

theorem rxRound_of_frame {ring payload rest : Octets} (popped : serialRxPopFrame ring = .frame payload rest) :
    rxRound ring = .step (if payload = [] then none else some payload) rest := by
  cases payload with
  | nil => simp only [rxRound, popped, if_true]
  | cons first more => simp only [rxRound, popped, reduceCtorEq, if_false]

theorem rxRound_reader : Framing.Reader rxRound where
  shorter := by
    intro ring found rest round
    rcases rxRound_eq_step round with ⟨popped, -⟩ | ⟨payload, popped, -⟩
    · exact (serialRxPopFrame_discarded popped).1
    · exact (serialRxPopFrame_frame popped).1
  stable := by
    intro ring found rest round more
    rcases rxRound_eq_step round with ⟨popped, nothing⟩ | ⟨payload, popped, kept⟩
    · rw [nothing]
      exact rxRound_of_discarded ((serialRxPopFrame_discarded popped).2 more)
    · rw [kept]
      exact rxRound_of_frame ((serialRxPopFrame_frame popped).2 more)

/-! ## Frames and noise -/

/-- Noise: the two start bytes never stand next to each other. -/
def Quiet (noise : Octets) : Prop := ¬ [SERIAL_START1, SERIAL_START2] <:+: noise

instance (noise : Octets) : Decidable (Quiet noise) := inferInstanceAs (Decidable (¬ _))

theorem Quiet.later {byte : UInt8} {noise : Octets} (quiet : Quiet (byte :: noise)) : Quiet noise :=
  fun marker => quiet (marker.trans (List.suffix_cons byte noise).isInfix)

theorem Quiet.start {byte next : UInt8} {noise : Octets} (quiet : Quiet (byte :: next :: noise)) :
    ¬ (byte = SERIAL_START1 ∧ next = SERIAL_START2) := by
  intro marker
  apply quiet
  rw [marker.1, marker.2]
  exact ⟨[], noise, rfl⟩

theorem serialRxPopFrame_skip {byte next : UInt8} {rest : Octets} (header : 2 ≤ rest.length)
    (noMarker : ¬ (byte = SERIAL_START1 ∧ next = SERIAL_START2)) :
    serialRxPopFrame (byte :: next :: rest) = .discarded (next :: rest) := by
  match rest, header with
  | h2 :: h3 :: body, _ =>
    simp only [serialRxPopFrame]
    by_cases first : byte = SERIAL_START1
    · rw [if_neg (not_not.mpr first), if_pos (fun second => noMarker ⟨first, second⟩)]
    · rw [if_pos first]

theorem length_bytes {length : Nat} (small : length ≤ API_FRAME_MAX) :
    (UInt8.ofNat (length / 2 ^ 8)).toNat * 2 ^ 8 + (UInt8.ofNat length).toNat = length := by
  simp only [API_FRAME_MAX] at small
  rw [UInt8.toNat_ofNat', UInt8.toNat_ofNat']
  omega

theorem serialEncodeFrame_eq_some {payload frame : Octets} {outLen : Nat}
    (encoded : serialEncodeFrame payload outLen = some frame) :
    payload.length ≤ API_FRAME_MAX ∧
      frame = SERIAL_START1 :: SERIAL_START2 :: UInt8.ofNat (payload.length / 2 ^ 8) :: UInt8.ofNat payload.length ::
        payload := by
  simp only [serialEncodeFrame] at encoded
  split_ifs at encoded with refused
  cases encoded
  exact ⟨by omega, rfl⟩

theorem serialRxPopFrame_encoded {payload frame : Octets} {outLen : Nat}
    (encoded : serialEncodeFrame payload outLen = some frame) (rest : Octets) :
    serialRxPopFrame (frame ++ rest) = .frame payload rest := by
  obtain ⟨small, shape⟩ := serialEncodeFrame_eq_some encoded
  have size := length_bytes small
  rw [shape]
  simp only [List.cons_append, serialRxPopFrame, size]
  rw [if_neg (fun differs => differs rfl), if_neg (fun differs => differs rfl), if_neg (by omega), if_neg ?_,
    List.take_left, List.drop_left]
  simp only [List.length_cons, List.length_append, SERIAL_HEADER]
  omega

/-- A frame with what comes after it, up to the next frame. -/
structure Segment where
  payload : Octets
  outLen : Nat
  frame : Octets
  noise : Octets
  encoded : serialEncodeFrame payload outLen = some frame
  quiet : Quiet noise

def wireStream (segments : List Segment) : Octets := segments.flatMap fun segment => segment.frame ++ segment.noise

def nonEmptyPayloads (segments : List Segment) : List Octets :=
  (segments.map Segment.payload).filter (fun payload => payload ≠ [])

/-- What may follow noise: the end of the stream, or a frame. -/
def Continues (stream : Octets) : Prop :=
  stream = [] ∨ stream.head? = some SERIAL_START1 ∧ SERIAL_HEADER ≤ stream.length

theorem wireStream_continues (segments : List Segment) : Continues (wireStream segments) := by
  cases segments with
  | nil => exact .inl rfl
  | cons segment later =>
    obtain ⟨-, shape⟩ := serialEncodeFrame_eq_some segment.encoded
    right
    simp [wireStream, shape, SERIAL_HEADER]

theorem rxRound_short {ring : Octets} (short : ring.length < SERIAL_HEADER) : rxRound ring = .wait := by
  match ring, short with
  | [], _ => rfl
  | [_], _ => rfl
  | [_, _], _ => rfl
  | [_, _, _], _ => rfl

theorem rxRound_noise {byte : UInt8} {noise stream : Octets} (quiet : Quiet (byte :: noise))
    (continues : Continues stream) (header : SERIAL_HEADER ≤ (byte :: (noise ++ stream)).length) :
    rxRound (byte :: (noise ++ stream)) = .step none (noise ++ stream) := by
  apply rxRound_of_discarded
  simp only [SERIAL_HEADER, List.length_cons] at header
  cases noise with
  | cons next noise =>
    rw [List.cons_append] at header ⊢
    apply serialRxPopFrame_skip
    · rw [List.length_cons] at header
      omega
    · exact quiet.start
  | nil =>
    -- the frame behind begins with the first start byte, which is not the second one
    cases stream with
    | nil => simp at header
    | cons next rest =>
      rcases continues with empty | ⟨starts, -⟩
      · cases empty
      · simp only [List.head?_cons, Option.some.injEq] at starts
        apply serialRxPopFrame_skip
        · simp only [List.nil_append, List.length_cons] at header
          omega
        · rw [starts]
          exact fun marker => absurd marker.2 (by decide)

theorem drains_noise {noise stream left : Octets} {values : List Octets} (quiet : Quiet noise)
    (continues : Continues stream) (drains : Framing.Drains rxRound stream values left) :
    ∃ rest, Framing.Drains rxRound (noise ++ stream) values rest := by
  induction noise with
  | nil => exact ⟨left, drains⟩
  | cons byte noise ih =>
    by_cases header : SERIAL_HEADER ≤ (byte :: (noise ++ stream)).length
    · obtain ⟨rest, later⟩ := ih quiet.later
      exact ⟨rest, .step (rxRound_noise quiet continues header) later⟩
    · have short := Nat.lt_of_not_le header
      have ended : stream = [] := by
        rcases continues with empty | ⟨-, long⟩
        · exact empty
        · simp only [List.length_cons, List.length_append] at short
          omega
      rw [ended] at drains
      obtain ⟨nothing, -⟩ := drains.unique (.wait (rxRound_short (by decide)))
      rw [nothing]
      exact ⟨_, .wait (rxRound_short short)⟩

theorem drains_wireStream (segments : List Segment) :
    ∃ left, Framing.Drains rxRound (wireStream segments) (nonEmptyPayloads segments) left := by
  induction segments with
  | nil => exact ⟨[], .wait rfl⟩
  | cons segment later ih =>
    obtain ⟨left, drains⟩ := ih
    obtain ⟨rest, afterFrame⟩ := drains_noise segment.quiet (wireStream_continues later) drains
    have taken := rxRound_of_frame (serialRxPopFrame_encoded segment.encoded (segment.noise ++ wireStream later))
    refine ⟨rest, ?_⟩
    have stream : wireStream (segment :: later) = segment.frame ++ (segment.noise ++ wireStream later) := by
      simp [wireStream]
    have payloads : nonEmptyPayloads (segment :: later) =
        (if segment.payload = [] then none else some segment.payload).toList ++ nonEmptyPayloads later := by
      by_cases empty : segment.payload = [] <;> simp [nonEmptyPayloads, empty]
    rw [stream, payloads]
    exact .step taken afterFrame

/-! ## The handler -/

/-- The handler's loop ends on every ring, and whatever is left fits in a frame. -/
theorem rxWorkHandler_terminates (port : SerialPort) {rounds : Nat} (enough : port.rxRing.length < rounds) :
    ∃ handed left, rxWorkHandler rounds port = some (handed, { port with rxRing := left }) ∧
      Framing.Drains rxRound port.rxRing handed left := by
  obtain ⟨handed, left, drains⟩ := Framing.exists_drains rxRound_reader port.rxRing
  refine ⟨handed, left, ?_, drains⟩
  simp only [rxWorkHandler, drains.drain_eq rxRound_reader enough, Option.map_some]

theorem needMore_of_wait {ring : Octets} (waits : rxRound ring = .wait) : serialRxPopFrame ring = .needMore := by
  unfold rxRound at waits
  split at waits
  · assumption
  · cases waits
  · cases waits
  · cases waits

theorem length_of_wait {ring : Octets} (waits : rxRound ring = .wait) : ring.length < SERIAL_WIRE_MAX := by
  have popped := needMore_of_wait waits
  by_contra long
  match ring, popped with
  | h0 :: h1 :: h2 :: h3 :: body, popped =>
    simp only [serialRxPopFrame] at popped
    split_ifs at popped with first second oversize short
    simp only [SERIAL_WIRE_MAX] at long
    omega
  | [], _ => exact long (by decide)
  | [_], _ => simp [SERIAL_WIRE_MAX, SERIAL_HEADER] at long
  | [_, _], _ => simp [SERIAL_WIRE_MAX, SERIAL_HEADER] at long
  | [_, _, _], _ => simp [SERIAL_WIRE_MAX, SERIAL_HEADER] at long

/-- Chunk by chunk, the handler reads what it would read of the whole. -/
theorem serialReceive_drains {port last : SerialPort} {chunks handed : List Octets}
    (idle : rxRound port.rxRing = .wait) (received : serialReceive port chunks = some (handed, last)) :
    Framing.Drains rxRound (port.rxRing ++ chunks.flatten) handed last.rxRing ∧ last.rxCapacity = port.rxCapacity := by
  induction chunks generalizing port handed with
  | nil =>
    cases received
    rw [List.flatten_nil, List.append_nil]
    exact ⟨.wait idle, rfl⟩
  | cons chunk rest ih =>
    simp only [serialReceive, Option.bind_eq_bind, Option.bind_eq_some_iff] at received
    obtain ⟨filled, put, ⟨now, drained⟩, handled, ⟨later, final⟩, received, whole⟩ := received
    simp only [serialIsrRx] at put
    split_ifs at put with fits
    cases put
    cases whole
    obtain ⟨seen, left, ran, drains⟩ := rxWorkHandler_terminates { port with rxRing := port.rxRing ++ chunk }
      (Nat.lt_succ_self _)
    rw [ran] at handled
    cases handled
    obtain ⟨drainsLater, capacity⟩ := ih drains.left_waits received
    rw [List.flatten_cons, ← List.append_assoc]
    exact ⟨drains.append rxRound_reader drainsLater, capacity⟩

/-- However the stream is cut, the phone API is handed every payload that is not empty, once and in
order; the ring is left with room for more, and on every ring the handler's loop ends. -/
theorem serial_stream_framing (port : SerialPort) (large : SERIAL_WIRE_MAX ≤ port.rxCapacity)
    (fresh : port.rxRing = []) (noise : Octets) (quiet : Quiet noise) (segments : List Segment)
    {last : SerialPort} {chunks handed : List Octets} (cut : chunks.flatten = noise ++ wireStream segments)
    (noOverrun : serialReceive port chunks = some (handed, last)) :
    handed = nonEmptyPayloads segments ∧ last.rxRing.length < last.rxCapacity ∧
      ∀ (ring : Octets) (rounds : Nat), ring.length < rounds →
        (rxWorkHandler rounds { port with rxRing := ring }).isSome := by
  have idle : rxRound port.rxRing = .wait := by
    rw [fresh]
    rfl
  obtain ⟨drains, capacity⟩ := serialReceive_drains idle noOverrun
  rw [fresh, List.nil_append, cut] at drains
  obtain ⟨left, wanted⟩ := drains_wireStream segments
  obtain ⟨rest, expected⟩ := drains_noise quiet (wireStream_continues segments) wanted
  refine ⟨(drains.unique expected).1, ?_, ?_⟩
  · have short := length_of_wait drains.left_waits
    omega
  · intro ring rounds enough
    obtain ⟨seen, leftover, ran, -⟩ := rxWorkHandler_terminates { port with rxRing := ring } enough
    rw [ran]
    rfl

def twoSegments : List Segment :=
  [{ payload := [1, 2], outLen := 516, frame := [0x94, 0xc3, 0, 2, 1, 2], noise := [0x94], encoded := by decide,
     quiet := by decide },
    { payload := [], outLen := 516, frame := [0x94, 0xc3, 0, 0], noise := [], encoded := by decide, quiet := by decide }]

theorem serial_stream_framing_two_frames :
    serialReceive { rxCapacity := 516 } [[0x07, 0x94], [0x94, 0xc3, 0], [2, 1, 2, 0x94, 0x94], [0xc3, 0, 0]] =
        some ([[1, 2]], { rxCapacity := 516 }) ∧
      [[1, 2]] = nonEmptyPayloads twoSegments := by
  have received : serialReceive { rxCapacity := 516 }
      [[0x07, 0x94], [0x94, 0xc3, 0], [2, 1, 2, 0x94, 0x94], [0xc3, 0, 0]] =
        some ([[1, 2]], { rxCapacity := 516 }) := by rfl
  have framed := serial_stream_framing { rxCapacity := 516 } (by decide) rfl
    [0x07, 0x94] (by decide) twoSegments (by decide) received
  exact ⟨received, framed.1⟩

/-! ## A full ring -/

def announcedLength : Octets → Option Nat
  | h0 :: h1 :: h2 :: h3 :: _ =>
    if h0 = SERIAL_START1 ∧ h1 = SERIAL_START2 ∧ h2.toNat * 2 ^ 8 + h3.toNat ≤ API_FRAME_MAX then
      some (h2.toNat * 2 ^ 8 + h3.toNat)
    else none
  | _ => none

theorem serialRxPopFrame_needMore_iff {ring : Octets} (header : SERIAL_HEADER ≤ ring.length) :
    serialRxPopFrame ring = .needMore ↔
      ∃ length, announcedLength ring = some length ∧ ring.length < SERIAL_HEADER + length := by
  match ring, header with
  | h0 :: h1 :: h2 :: h3 :: body, _ =>
    simp only [serialRxPopFrame, announcedLength]
    generalize h2.toNat * 2 ^ 8 + h3.toNat = pktLen
    by_cases first : h0 = SERIAL_START1
    swap
    · simp [first]
    by_cases second : h1 = SERIAL_START2
    swap
    · simp [first, second]
    by_cases long : pktLen > API_FRAME_MAX
    · simp [first, second, long, Nat.not_le.mpr long]
    · simp [first, second, long, Nat.not_lt.mp long]

/-- The reader has a frame or discards a byte, and the handler leaves room in the ring. -/
structure SerialPort.Proceeds (port : SerialPort) : Prop where
  popped : serialRxPopFrame port.rxRing ≠ .needMore
  room : ∀ rounds handed last, rxWorkHandler rounds port = some (handed, last) → last.rxRing.length < last.rxCapacity

/-- No frame is announced that is larger than the ring. -/
def SerialPort.Holds (port : SerialPort) : Prop :=
  ∀ length, announcedLength port.rxRing = some length → SERIAL_HEADER + length ≤ port.rxCapacity

/-- A full ring of any size that Kconfig admits is read from, unless it announces a frame that it cannot
hold. -/
theorem serial_rx_proceeds_iff (port : SerialPort) (admitted : 64 ≤ port.rxCapacity ∧ port.rxCapacity ≤ 4096)
    (full : port.rxRing.length = port.rxCapacity) : port.Proceeds ↔ port.Holds := by
  have header : SERIAL_HEADER ≤ port.rxRing.length := by
    simp only [SERIAL_HEADER]
    omega
  have stuck := serialRxPopFrame_needMore_iff header
  constructor
  · intro proceeds length announced
    by_contra large
    exact proceeds.popped (stuck.mpr ⟨length, announced, by omega⟩)
  · intro holds
    have popped : serialRxPopFrame port.rxRing ≠ .needMore := by
      intro waits
      obtain ⟨length, announced, short⟩ := stuck.mp waits
      have fits := holds length announced
      omega
    refine ⟨popped, ?_⟩
    intro rounds handed last handled
    obtain ⟨result, ran, same⟩ := Option.map_eq_some_iff.mp handled
    cases same
    have busy : rxRound port.rxRing ≠ .wait := fun waits => popped (needMore_of_wait waits)
    have shorter := ((Framing.drains_of_drain ran).shorter rxRound_reader).2 busy
    show result.2.length < port.rxCapacity
    omega

def noisyPort : SerialPort := { rxCapacity := 64, rxRing := List.replicate 64 0x00 }

theorem serial_rx_proceeds_noisyPort : noisyPort.Proceeds :=
  (serial_rx_proceeds_iff noisyPort (by decide) (by decide)).mpr (fun _ announced => nomatch announced)

def stuckPort : SerialPort :=
  { rxCapacity := 64, rxRing := SERIAL_START1 :: SERIAL_START2 :: 0x00 :: 0xc8 :: List.replicate 60 0x08 }

/-- The reader waits for more, the handler leaves the ring as it is, and the UART's next byte is dropped. -/
theorem serial_rx_wedged :
    64 ≤ stuckPort.rxCapacity ∧ stuckPort.rxCapacity ≤ 4096 ∧ stuckPort.rxRing.length = stuckPort.rxCapacity ∧
      serialRxPopFrame stuckPort.rxRing = .needMore ∧ rxWorkHandler 65 stuckPort = some ([], stuckPort) ∧
      (∀ byte, serialIsrRx stuckPort [byte] = none) ∧ ¬stuckPort.Proceeds := by
  refine ⟨by decide, by decide, by decide, by decide, rfl, fun _ => rfl, ?_⟩
  intro proceeds
  exact proceeds.popped (by decide)

end Meshtastic
