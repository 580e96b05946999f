import Meshtastic.Lib.Protobuf
import Meshtastic.Packet

/-! What the stack relies on in nanopb, and the encoding of `meshtastic_Data` and
`meshtastic_Routing` as the schema in `mesh.proto` gives it. -/

namespace Meshtastic
open Bytes Protobuf

/-- Decoding inverts encoding on messages that fit, and the empty string is the message with every
field at its default. -/
structure Codec.Lawful (codec : Codec) : Prop where
  decode_encode : ∀ data : Data, data.payload.length ≤ MAX_PAYLOAD_LEN →
    codec.decodeData (codec.encodeData data) = some data
  decode_nil : codec.decodeData [] = some {}

theorem Codec.Lawful.encode_ne_nil {codec : Codec} (lawful : codec.Lawful) {data : Data}
    (short : data.payload.length ≤ MAX_PAYLOAD_LEN) (port : data.portnum ≠ PORT_UNKNOWN) :
    codec.encodeData data ≠ [] := by
  intro empty
  have decoded := lawful.decode_encode data short
  rw [empty, lawful.decode_nil] at decoded
  exact port (Option.some.inj decoded ▸ rfl)

/-- The payload of a decoded message fits into its field, whose size `mesh.options` fixes. -/
def Codec.Bounded (codec : Codec) : Prop :=
  ∀ octets data, codec.decodeData octets = some data → data.payload.length ≤ MAX_PAYLOAD_LEN

def optionalField (present : Bool) (number : Nat) (value : WireValue) : List Field :=
  if present then [⟨number, value⟩] else []

def bitfieldField : Option UInt8 → List Field
  | none => []
  | some bits => [⟨9, .varint bits.toNat⟩]

def dataFields (data : Data) : List Field :=
  optionalField (data.portnum != 0) 1 (.varint data.portnum.toNat) ++
  (optionalField (data.payload != []) 2 (.bytes data.payload) ++
  (optionalField data.wantResponse 3 (.varint data.wantResponse.toNat) ++
  (optionalField (data.dest != 0) 4 (.fixed32 data.dest) ++
  (optionalField (data.source != 0) 5 (.fixed32 data.source) ++
  (optionalField (data.requestId != 0) 6 (.fixed32 data.requestId) ++
  (optionalField (data.replyId != 0) 7 (.fixed32 data.replyId) ++
  (optionalField (data.emoji != 0) 8 (.fixed32 data.emoji) ++
  bitfieldField data.bitfield)))))))

/-- One field of a Data message. A known number with another wire type or a value out of range is
an error, an unknown number is skipped. -/
def readDataField (data : Data) (field : Field) : Option Data :=
  match field.number, field.value with
  | 1, .varint value => if value < 2 ^ 32 then some { data with portnum := UInt32.ofNat value } else none
  | 2, .bytes octets => if octets.length ≤ MAX_PAYLOAD_LEN then some { data with payload := octets } else none
  | 3, .varint value => some { data with wantResponse := value != 0 }
  | 4, .fixed32 word => some { data with dest := word }
  | 5, .fixed32 word => some { data with source := word }
  | 6, .fixed32 word => some { data with requestId := word }
  | 7, .fixed32 word => some { data with replyId := word }
  | 8, .fixed32 word => some { data with emoji := word }
  | 9, .varint value => if value < 256 then some { data with bitfield := some (UInt8.ofNat value) } else none
  | number, _ => if 1 ≤ number ∧ number ≤ 9 then none else some data

def decodeDataMessage (octets : Octets) : Option Data :=
  (decodeFields octets.length octets).bind (fun fields => fields.foldlM readDataField {})

def encodeRoutingMessage : Routing → Octets
  | .errorReason value => encodeFields [⟨3, .varint value⟩]
  | .other => encodeFields [⟨1, .bytes []⟩]

def decodeRoutingMessage (octets : Octets) : Option Routing :=
  (decodeFields octets.length octets).map fun fields =>
    fields.foldl (fun routing field =>
      match field.number, field.value with
      | 3, .varint value => .errorReason value
      | 1, _ => .other
      | 2, _ => .other
      | _, _ => routing) .other

def dataCodec (keystream : Octets → Octets → Nat → UInt8) : Codec where
  encodeData data := encodeFields (dataFields data)
  decodeData := decodeDataMessage
  encodeRouting := encodeRoutingMessage
  decodeRouting := decodeRoutingMessage
  keystream := keystream

theorem optionalField_fits {present : Bool} {number : Nat} {value : WireValue} (small : number < 2 ^ 29)
    (fits : Field.Fits ⟨0, value⟩) : ∀ field ∈ optionalField present number value, field.Fits := by
  intro field member
  unfold optionalField at member
  split_ifs at member
  · rw [List.mem_singleton.mp member]
    exact ⟨small, fits.2⟩
  · exact False.elim (List.not_mem_nil member)

theorem fits_varint {value : Nat} (bound : value < 2 ^ 32) : Field.Fits ⟨0, .varint value⟩ :=
  ⟨Nat.two_pow_pos 29, Nat.lt_trans bound (by decide)⟩

theorem fits_fixed32 (word : UInt32) : Field.Fits ⟨0, .fixed32 word⟩ :=
  ⟨Nat.two_pow_pos 29, trivial⟩

theorem dataFields_fit {data : Data} (short : data.payload.length ≤ MAX_PAYLOAD_LEN) :
    ∀ field ∈ dataFields data, field.Fits := by
  have payload : Field.Fits ⟨0, .bytes data.payload⟩ := ⟨Nat.two_pow_pos 29, Nat.lt_of_le_of_lt short (by decide)⟩
  intro field member
  simp only [dataFields, List.mem_append] at member
  rcases member with port | bytes | response | dest | source | request | reply | emoji | bits
  · exact optionalField_fits (by decide) (fits_varint data.portnum.toNat_lt) field port
  · exact optionalField_fits (by decide) payload field bytes
  · have bit : data.wantResponse.toNat < 2 ^ 32 := Nat.lt_of_le_of_lt data.wantResponse.toNat_le (by decide)
    exact optionalField_fits (by decide) (fits_varint bit) field response
  · exact optionalField_fits (by decide) (fits_fixed32 _) field dest
  · exact optionalField_fits (by decide) (fits_fixed32 _) field source
  · exact optionalField_fits (by decide) (fits_fixed32 _) field request
  · exact optionalField_fits (by decide) (fits_fixed32 _) field reply
  · exact optionalField_fits (by decide) (fits_fixed32 _) field emoji
  · cases stored : data.bitfield with
    | none =>
      rw [stored] at bits
      exact False.elim (List.not_mem_nil bits)
    | some value =>
      rw [stored] at bits
      rw [List.mem_singleton.mp bits]
      have small := value.toNat_lt
      exact ⟨Nat.lt_of_lt_of_le (by decide : 9 < 10) (by decide), Nat.lt_trans small (by decide)⟩

/-- Reading an optional field sets it, or finds its default already in place. -/
theorem foldlM_optionalField {present : Bool} {number : Nat} {value : WireValue} {start next : Data}
    (written : readDataField start ⟨number, value⟩ = some next) (default : present = false → next = start)
    (rest : List Field) :
    (optionalField present number value ++ rest).foldlM readDataField start =
      rest.foldlM readDataField next := by
  cases present with
  | false =>
    rw [default rfl]
    rfl
  | true =>
    show (readDataField start ⟨number, value⟩).bind (fun next => rest.foldlM readDataField next) = _
    rw [written]
    rfl

theorem dataFields_read {data : Data} (short : data.payload.length ≤ MAX_PAYLOAD_LEN) :
    (dataFields data).foldlM readDataField {} = some data := by
  obtain ⟨portnum, payload, wantResponse, dest, source, requestId, replyId, emoji, bitfield⟩ := data
  have port := portnum.toNat_lt
  have room : payload.length ≤ MAX_PAYLOAD_LEN := short
  have readPort : readDataField {} ⟨1, .varint portnum.toNat⟩ = some { portnum := portnum } := by
    simp [readDataField, port]
  have readPayload : readDataField { portnum := portnum } ⟨2, .bytes payload⟩ =
      some { portnum := portnum, payload := payload } := by
    simp [readDataField, room]
  have readResponse : readDataField { portnum := portnum, payload := payload } ⟨3, .varint wantResponse.toNat⟩ =
      some { portnum := portnum, payload := payload, wantResponse := wantResponse } := by
    cases wantResponse <;> simp [readDataField]
  have fixed : ∀ word : UInt32, (word != 0) = false → word = 0 := by simp
  have empty : (payload != []) = false → payload = [] := by simp
  unfold dataFields
  rw [foldlM_optionalField readPort (by intro zero; rw [fixed portnum zero]),
    foldlM_optionalField readPayload (by intro none; rw [empty none]),
    foldlM_optionalField readResponse (by intro none; rw [show wantResponse = false from none]),
    foldlM_optionalField rfl (by intro zero; rw [fixed dest zero]),
    foldlM_optionalField rfl (by intro zero; rw [fixed source zero]),
    foldlM_optionalField rfl (by intro zero; rw [fixed requestId zero]),
    foldlM_optionalField rfl (by intro zero; rw [fixed replyId zero]),
    foldlM_optionalField rfl (by intro zero; rw [fixed emoji zero])]
  cases bitfield with
  | none => rfl
  | some bits =>
    have small := bits.toNat_lt
    simp [bitfieldField, readDataField, small]

theorem dataCodec_lawful (keystream : Octets → Octets → Nat → UInt8) : (dataCodec keystream).Lawful where
  decode_encode := by
    intro data short
    show (decodeFields (encodeFields (dataFields data)).length (encodeFields (dataFields data))).bind _ = some data
    rw [decodeFields_encodeFields (dataFields data) (dataFields_fit short) _ (Nat.le_refl _)]
    exact dataFields_read short
  decode_nil := rfl

theorem readDataField_bounded {data next : Data} {field : Field} (bounded : data.payload.length ≤ MAX_PAYLOAD_LEN)
    (read : readDataField data field = some next) : next.payload.length ≤ MAX_PAYLOAD_LEN := by
  unfold readDataField at read
  split at read
  all_goals try split_ifs at read
  all_goals cases read
  all_goals first
    | exact bounded
    | assumption

theorem foldlM_readDataField_bounded {fields : List Field} {data next : Data}
    (bounded : data.payload.length ≤ MAX_PAYLOAD_LEN) (read : fields.foldlM readDataField data = some next) :
    next.payload.length ≤ MAX_PAYLOAD_LEN := by
  induction fields generalizing data with
  | nil =>
    cases read
    exact bounded
  | cons field rest ih =>
    obtain ⟨middle, first, later⟩ := Option.bind_eq_some_iff.mp read
    exact ih (readDataField_bounded bounded first) later

theorem dataCodec_bounded (keystream : Octets → Octets → Nat → UInt8) : (dataCodec keystream).Bounded := by
  intro octets data decoded
  obtain ⟨fields, _, read⟩ := Option.bind_eq_some_iff.mp decoded
  exact foldlM_readDataField_bounded (Nat.zero_le _) read

end Meshtastic
