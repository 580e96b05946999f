import Meshtastic.Lib.Numeral
import Meshtastic.Mqtt
import Meshtastic.StoreRecords

/-! How the commands of `meshtastic_shell.c` read numbers, keys and names, and how they print them. What a
reader refuses it answers with the line that is shown. -/

namespace Meshtastic
open Bytes

def lit (text : String) : CString := CString.ofOctets (ascii text)

section
variable (build : StoreBuild)

/-! ## Numbers -/

def digitValue (c : UInt8) : Nat :=
  if isDigit c then c.toNat - 0x30
  else if 0x61 ≤ c ∧ c ≤ 0x7a then c.toNat - 0x61 + 10
  else if 0x41 ≤ c ∧ c ≤ 0x5a then c.toNat - 0x41 + 10
  else 36

/-- The base that `strtoul` finds for itself, and the digits to be read in it: `0x` counts only with a digit
behind it. -/
def takeBase : Octets → Nat × Octets
  | 0x30 :: x :: digit :: rest =>
    if (x = 0x78 ∨ x = 0x58) ∧ digitValue digit < 16 then (16, digit :: rest)
    else (8, 0x30 :: x :: digit :: rest)
  | 0x30 :: rest => (8, 0x30 :: rest)
  | text => (10, text)

/-- `strtoul` with base 0, else as `strtoul`. -/
def strtoulAnyBase (text : Octets) : Nat × Octets :=
  let signed := takeSign (text.dropWhile isSpace)
  let based := takeBase signed.2
  let digits := based.2.takeWhile fun c => digitValue c < based.1
  let rest := based.2.dropWhile fun c => digitValue c < based.1
  let number := Numeral.value based.1 (digits.map digitValue)
  if digits = [] then (0, text)
  else if number ≥ 2 ^ build.ulongBits then (2 ^ build.ulongBits - 1, rest)
  else if signed.1 then ((2 ^ build.ulongBits - number) % 2 ^ build.ulongBits, rest)
  else (number, rest)

def parseU32 (arg : CString) : Except Octets UInt32 :=
  if arg = lit "broadcast" then .ok NODE_BROADCAST
  else if (strtoulAnyBase build arg.bytes).2 ≠ [] ∨ 2 ^ 32 - 1 < (strtoulAnyBase build arg.bytes).1 then
    .error (ascii "invalid integer: " ++ arg.bytes)
  else .ok (UInt32.ofNat (strtoulAnyBase build arg.bytes).1)

def shellParseChannelIndex (arg : CString) : Except Octets SlotIndex :=
  if (strtoulAnyBase build arg.bytes).2 ≠ [] then .error (ascii "invalid channel index: " ++ arg.bytes)
  else if small : (strtoulAnyBase build arg.bytes).1 < MAX_CHANNELS then .ok ⟨(strtoulAnyBase build arg.bytes).1, small⟩
  else .error (ascii "invalid channel index: " ++ arg.bytes)

end

def decimal (number : Nat) : Octets := (Numeral.plain 10 number).map hexDigit

def hexByte (byte : UInt8) : Octets := [hexDigit (byte.toNat / 16), hexDigit (byte.toNat % 16)]

def hexNode (nodeId : UInt32) : Octets := ascii "0x" ++ hexDigits nodeId

/-! ## Keys -/

def shellParseHexNibble (c : UInt8) : Option Nat :=
  if 0x30 ≤ c ∧ c ≤ 0x39 then some (c.toNat - 0x30)
  else if 0x61 ≤ c ∧ c ≤ 0x66 then some (c.toNat - 0x61 + 10)
  else if 0x41 ≤ c ∧ c ≤ 0x46 then some (c.toNat - 0x41 + 10)
  else none

/-- The loop of `shell_parse_hex_psk`. -/
def shellParseHexPairs : Octets → Option Octets
  | first :: second :: rest =>
    match shellParseHexNibble first, shellParseHexNibble second with
    | some hi, some lo => (shellParseHexPairs rest).map (UInt8.ofNat (hi <<< 4 ||| lo) :: ·)
    | _, _ => none
  | _ => some []

def shellParseHexPsk (hex : CString) : Except Octets Octets :=
  if hex.bytes.length ≠ 32 ∧ hex.bytes.length ≠ 64 then .error (ascii "psk hex must be 32 or 64 characters")
  else
    match shellParseHexPairs hex.bytes with
    | some key => .ok key
    | none => .error (ascii "invalid hex in psk")

/-! ## Names -/

/-- A chain of `strcmp`, with the complaint it ends in. -/
def parseName {Value : Type} (names : List (String × Value)) (complaint : String) (arg : CString) :
    Except Octets Value :=
  match names.find? fun entry => arg = lit entry.1 with
  | some entry => .ok entry.2
  | none => .error (ascii complaint ++ arg.bytes)

def shellParseChannelRole : CString → Except Octets ChannelRole :=
  parseName [("primary", .primary), ("secondary", .secondary), ("disabled", .disabled)] "invalid channel role: "

def shellChannelRoleName : ChannelRole → String
  | .primary => "primary"
  | .secondary => "secondary"
  | _ => "disabled"

def shellParseDeviceRole : CString → Except Octets DeviceRole :=
  parseName
    [("client", .client), ("client_mute", .clientMute), ("router", .router), ("router_late", .routerLate),
      ("client_base", .clientBase), ("sensor", .sensor), ("tracker", .tracker), ("tak", .tak),
      ("client_hidden", .clientHidden), ("lost_and_found", .lostAndFound), ("tak_tracker", .takTracker)]
    "invalid device role: "

def shellDeviceRoleName : DeviceRole → String
  | .client => "client"
  | .clientMute => "client_mute"
  | .router => "router"
  | .routerLate => "router_late"
  | .clientBase => "client_base"
  | .sensor => "sensor"
  | .tracker => "tracker"
  | .tak => "tak"
  | .clientHidden => "client_hidden"
  | .lostAndFound => "lost_and_found"
  | .takTracker => "tak_tracker"
  | _ => "unknown"

def shellParseRebroadcastMode : CString → Except Octets RebroadcastMode :=
  parseName
    [("all", .all), ("all_skip_decoding", .allSkipDecoding), ("local_only", .localOnly),
      ("known_only", .knownOnly), ("none", .none), ("core_portnums_only", .corePortnumsOnly)]
    "invalid rebroadcast mode: "

def shellRebroadcastModeName : RebroadcastMode → String
  | .all => "all"
  | .allSkipDecoding => "all_skip_decoding"
  | .localOnly => "local_only"
  | .knownOnly => "known_only"
  | .none => "none"
  | .corePortnumsOnly => "core_portnums_only"
  | .unrecognized _ => "unknown"

/-! ## Numbers that were printed -/

theorem digitValue_hexDigit : ∀ digit < 16, digitValue (hexDigit digit) = digit := by decide

theorem hexDigits_eq_padded (value : UInt32) : hexDigits value = (Numeral.padded 16 8 value.toNat).map hexDigit := by
  simp [hexDigits, Numeral.padded, Nat.div_div_eq_div_mul]

section
variable {build : StoreBuild}

theorem strtoulAnyBase_digits {text : Octets} {base : Nat} {digits : List Nat} (small : base ≤ 16)
    (given : digits ≠ []) (below : ∀ digit ∈ digits, digit < base) (fits : Numeral.value base digits < 2 ^ build.ulongBits)
    (started : takeSign (text.dropWhile isSpace) = (false, text))
    (based : takeBase text = (base, digits.map hexDigit)) :
    strtoulAnyBase build text = (Numeral.value base digits, []) := by
  have reads : ∀ digit < base, digitValue (hexDigit digit) = digit :=
    fun digit less => digitValue_hexDigit digit (Nat.lt_of_lt_of_le less small)
  have taken := Numeral.takeWhile_symbols reads below
  have rest : (digits.map hexDigit).dropWhile (fun c => digitValue c < base) = [] := by
    rw [List.dropWhile_eq_nil_iff]
    exact List.takeWhile_eq_self_iff.mp taken
  have some : digits.map hexDigit ≠ [] := fun none => given (List.map_eq_nil_iff.mp none)
  unfold strtoulAnyBase
  simp only [started, based, taken, rest, Numeral.map_symbols reads below, if_neg some, Bool.false_eq_true, if_false,
    if_neg (Nat.not_le.mpr fits)]

theorem hexDigit_started {digit : Nat} (small : digit < 16) (rest : Octets) :
    takeSign ((hexDigit digit :: rest).dropWhile isSpace) = (false, hexDigit digit :: rest) := by
  have all : ∀ digit : Fin 16, isSpace (hexDigit digit.val) = false ∧ hexDigit digit.val ≠ 0x2b ∧
      hexDigit digit.val ≠ 0x2d := by decide
  obtain ⟨solid, plus, minus⟩ := all ⟨digit, small⟩
  rw [List.dropWhile_cons_of_neg (by simp only [solid]; decide)]
  unfold takeSign
  split
  · next same => exact absurd (List.cons.inj same).1 plus
  · next same => exact absurd (List.cons.inj same).1 minus
  · rfl

theorem parseU32_hexNode {nodeId : UInt32} {arg : CString} (printed : arg.bytes = hexNode nodeId) :
    parseU32 build arg = .ok nodeId := by
  have below : ∀ digit ∈ Numeral.padded 16 8 nodeId.toNat, digit < 16 := Numeral.padded_lt (by decide) 8 nodeId.toNat
  have range : nodeId.toNat < 16 ^ 8 := nodeId.toNat_lt
  have wide : 2 ^ 32 ≤ 2 ^ build.ulongBits := Nat.pow_le_pow_right (by decide) build.ulongBits_ge
  have number : Numeral.value 16 (Numeral.padded 16 8 nodeId.toNat) = nodeId.toNat := Numeral.value_padded_of_lt range
  have length := Numeral.padded_length 16 8 nodeId.toNat
  have based : takeBase arg.bytes = (16, (Numeral.padded 16 8 nodeId.toNat).map hexDigit) := by
    rw [printed, hexNode, hexDigits_eq_padded]
    cases digits : Numeral.padded 16 8 nodeId.toNat with
    | nil =>
      rw [digits] at length
      contradiction
    | cons digit rest =>
      have small : digitValue (hexDigit digit) < 16 := by
        have less := below digit (by rw [digits]; exact List.mem_cons_self)
        rw [digitValue_hexDigit digit less]
        exact less
      exact if_pos ⟨.inl rfl, small⟩
  have read : strtoulAnyBase build arg.bytes = (nodeId.toNat, []) := by
    have started : takeSign (arg.bytes.dropWhile isSpace) = (false, arg.bytes) := by
      rw [printed]
      exact hexDigit_started (by decide : 0 < 16) _
    rw [strtoulAnyBase_digits (Nat.le_refl 16) (List.ne_nil_of_length_eq_add_one length) below (by omega) started based,
      number]
  have apart : arg ≠ lit "broadcast" := by
    intro same
    have front : arg.bytes.head? = some 0x62 := by
      rw [same]
      decide
    rw [printed] at front
    injection front with same
    contradiction
  have within : ¬(([] : Octets) ≠ [] ∨ 2 ^ 32 - 1 < nodeId.toNat) := by
    have := nodeId.toNat_lt
    simp only [ne_eq, not_true_eq_false, false_or]
    omega
  rw [parseU32, if_neg apart, read, if_neg within, UInt32.ofNat_toNat]

theorem strtoulAnyBase_decimal {number : Nat} (fits : number < 2 ^ build.ulongBits) :
    strtoulAnyBase build (decimal number) = (number, []) := by
  have below := Numeral.plain_lt (by decide : 1 < 10) number
  have value := Numeral.value_plain 10 number
  unfold decimal
  cases digits : Numeral.plain 10 number with
  | nil => exact absurd digits (Numeral.plain_ne_nil 10 number)
  | cons digit rest =>
    rw [digits] at below value
    have small : digit < 10 := below digit List.mem_cons_self
    have started := hexDigit_started (by omega : digit < 16) (rest.map hexDigit)
    by_cases zero : number = 0
    · have none : digit :: rest = [0] := by
        rw [← digits, Numeral.plain, if_pos zero]
      rw [none, zero]
      exact @strtoulAnyBase_digits build _ 8 [0] (by decide) (by decide) (by decide) (Nat.two_pow_pos _) rfl rfl
    · have based : takeBase ((digit :: rest).map hexDigit) = (10, (digit :: rest).map hexDigit) := by
        have leading : digit ≠ 0 := by
          intro same
          exact Numeral.plain_head zero (by rw [digits, same]; rfl)
        have nonzero : ∀ digit : Fin 10, digit.val ≠ 0 → hexDigit digit.val ≠ 0x30 := by decide
        unfold takeBase
        split
        · next same => exact absurd (List.cons.inj same).1 (nonzero ⟨digit, small⟩ leading)
        · next same => exact absurd (List.cons.inj same).1 (nonzero ⟨digit, small⟩ leading)
        · rfl
      have read := strtoulAnyBase_digits (by decide) (List.cons_ne_nil digit rest) below (by rw [value]; exact fits)
        started based
      rw [value] at read
      exact read

end

/-! ## Keys that were printed -/

/-- Two digits of either case for each byte. -/
def HexSpells (text key : Octets) : Prop :=
  text.map shellParseHexNibble = key.flatMap fun byte => [some (byte.toNat / 16), some (byte.toNat % 16)]

theorem hexPair_toNat : ∀ hi < 16, ∀ lo < 16, (UInt8.ofNat (hi <<< 4 ||| lo)).toNat = 16 * hi + lo := by decide

theorem shellParseHexNibble_lt {c : UInt8} {digit : Nat} (read : shellParseHexNibble c = some digit) : digit < 16 := by
  unfold shellParseHexNibble at read
  split_ifs at read with decimal lower upper
  · have last : c.toNat ≤ 0x39 := UInt8.le_iff_toNat_le.mp decimal.2
    cases read
    omega
  · have last : c.toNat ≤ 0x66 := UInt8.le_iff_toNat_le.mp lower.2
    cases read
    omega
  · have last : c.toNat ≤ 0x46 := UInt8.le_iff_toNat_le.mp upper.2
    cases read
    omega

theorem shellParseHexNibble_hexDigit : ∀ digit < 16, shellParseHexNibble (hexDigit digit) = some digit := by decide

theorem hexSpells_nil {key : Octets} : HexSpells [] key ↔ key = [] := by
  cases key with
  | nil => exact ⟨fun _ => rfl, fun _ => rfl⟩
  | cons byte rest => simp [HexSpells]

theorem hexSpells_cons {first second : UInt8} {rest key : Octets} :
    HexSpells (first :: second :: rest) key ↔
      ∃ byte tail, key = byte :: tail ∧ shellParseHexNibble first = some (byte.toNat / 16) ∧
        shellParseHexNibble second = some (byte.toNat % 16) ∧ HexSpells rest tail := by
  cases key with
  | nil => simp [HexSpells]
  | cons byte tail =>
    simp only [HexSpells, List.map_cons, List.flatMap_cons, List.cons_append, List.nil_append, List.cons.injEq]
    constructor
    · intro spelled
      exact ⟨byte, tail, ⟨rfl, rfl⟩, spelled⟩
    · intro spelled
      obtain ⟨byte', tail', ⟨sameByte, sameTail⟩, high, low, later⟩ := spelled
      rw [sameByte, sameTail]
      exact ⟨high, low, later⟩

theorem hexPair_eq_iff {hi lo : Nat} (high : hi < 16) (low : lo < 16) (byte : UInt8) :
    UInt8.ofNat (hi <<< 4 ||| lo) = byte ↔ hi = byte.toNat / 16 ∧ lo = byte.toNat % 16 := by
  have joined := hexPair_toNat hi high lo low
  constructor
  · intro same
    rw [same] at joined
    omega
  · intro halves
    apply UInt8.toNat_inj.mp
    omega

/-- The loop reads exactly the spellings of keys. -/
theorem shellParseHexPairs_eq_some {text key : Octets} (even : text.length % 2 = 0) :
    shellParseHexPairs text = some key ↔ HexSpells text key := by
  induction text using shellParseHexPairs.induct generalizing key with
  | case1 first second rest hi lo low high ih =>
    have evenRest : rest.length % 2 = 0 := by
      simp only [List.length_cons] at even
      omega
    have halves := hexPair_eq_iff (shellParseHexNibble_lt high) (shellParseHexNibble_lt low)
    simp only [shellParseHexPairs, high, low, hexSpells_cons, Option.map_eq_some_iff, Option.some.injEq]
    constructor
    · intro read
      obtain ⟨tail, later, same⟩ := read
      exact ⟨_, tail, same.symm, ((halves _).mp rfl).1, ((halves _).mp rfl).2, (ih evenRest).mp later⟩
    · intro spelled
      obtain ⟨byte, tail, same, isHigh, isLow, later⟩ := spelled
      exact ⟨tail, (ih evenRest).mpr later, by rw [same, (halves byte).mpr ⟨isHigh, isLow⟩]⟩
  | case2 first second rest unread =>
    rw [shellParseHexPairs, hexSpells_cons]
    constructor
    · intro read
      split at read
      · next hi lo high low => exact (unread hi lo high low).elim
      · cases read
    · intro spelled
      obtain ⟨byte, tail, -, high, low, -⟩ := spelled
      exact (unread _ _ high low).elim
  | case3 text single =>
    cases text with
    | nil =>
      rw [hexSpells_nil, shellParseHexPairs]
      · exact ⟨fun read => (Option.some.inj read).symm, fun none => by rw [none]⟩
      · exact single
    | cons first rest =>
      cases rest with
      | nil => contradiction
      | cons second rest => exact (single first second rest rfl).elim

theorem HexSpells.length {text key : Octets} (spelled : HexSpells text key) : text.length = 2 * key.length := by
  have doubled : ∀ key : Octets,
      (key.flatMap fun byte => [some (byte.toNat / 16), some (byte.toNat % 16)]).length = 2 * key.length := by
    intro key
    induction key with
    | nil => rfl
    | cons byte rest ih =>
      rw [List.flatMap_cons, List.length_append, ih]
      simp only [List.length_cons, List.length_nil]
      omega
  rw [← doubled key, ← spelled, List.length_map]

theorem shellParseHexPsk_eq_ok {hex : CString} {key : Octets} :
    shellParseHexPsk hex = .ok key ↔ HexSpells hex.bytes key ∧ (key.length = 16 ∨ key.length = 32) := by
  unfold shellParseHexPsk
  split_ifs with length
  · constructor
    · intro read
      cases read
    · intro spelled
      have := spelled.1.length
      omega
  · have even : hex.bytes.length % 2 = 0 := by omega
    have read : ∀ key, shellParseHexPairs hex.bytes = some key ↔ HexSpells hex.bytes key :=
      fun key => shellParseHexPairs_eq_some even
    cases found : shellParseHexPairs hex.bytes with
    | none =>
      constructor
      · intro same
        cases same
      · intro spelled
        rw [(read key).mpr spelled.1] at found
        cases found
    | some known =>
      have spelled := (read known).mp found
      constructor
      · intro same
        cases same
        have := spelled.length
        exact ⟨spelled, by omega⟩
      · intro other
        rw [(read key).mpr other.1] at found
        cases found
        rfl

theorem hexSpells_printed (key : Octets) : HexSpells (key.flatMap hexByte) key := by
  induction key with
  | nil => rfl
  | cons byte rest ih =>
    rw [List.flatMap_cons]
    refine hexSpells_cons.mpr ⟨byte, rest, rfl, ?_, ?_, ih⟩
    · exact shellParseHexNibble_hexDigit _ (by have := byte.toNat_lt; omega)
    · exact shellParseHexNibble_hexDigit _ (Nat.mod_lt _ (by decide))

/-! ## Names that were printed -/

theorem parseName_eq_ok {Value : Type} {names : List (String × Value)} {complaint : String} (nameOf : Value → String)
    (printed : ∀ entry ∈ names, nameOf entry.2 = entry.1)
    (distinct : ∀ first ∈ names, ∀ second ∈ names, lit first.1 = lit second.1 → first.2 = second.2)
    {arg : CString} {value : Value} :
    parseName names complaint arg = .ok value ↔ (nameOf value, value) ∈ names ∧ arg = lit (nameOf value) := by
  unfold parseName
  constructor
  · intro read
    cases found : names.find? fun entry => arg = lit entry.1 with
    | none =>
      rw [found] at read
      cases read
    | some entry =>
      rw [found] at read
      cases read
      have member := List.mem_of_find?_eq_some found
      have same : arg = lit entry.1 := by simpa using List.find?_some found
      rw [printed entry member]
      exact ⟨member, same⟩
  · intro known
    obtain ⟨member, same⟩ := known
    cases found : names.find? fun entry => arg = lit entry.1 with
    | none => exact absurd same (by simpa using List.find?_eq_none.mp found _ member)
    | some entry =>
      have here : arg = lit entry.1 := by simpa using List.find?_some found
      exact congrArg Except.ok (distinct entry (List.mem_of_find?_eq_some found) _ member (here.symm.trans same))

theorem shellParseChannelRole_eq_ok {arg : CString} {role : ChannelRole} :
    shellParseChannelRole arg = .ok role ↔ role.toNat ≤ 2 ∧ arg = lit (shellChannelRoleName role) := by
  rw [shellParseChannelRole, parseName_eq_ok shellChannelRoleName (by decide) (by decide)]
  cases role with
  | unrecognized beyond =>
    have beyondTwo : ¬(ChannelRole.unrecognized beyond).toNat ≤ 2 := by
      simp only [ChannelRole.toNat]
      omega
    simp [beyondTwo]
  | disabled => simp [shellChannelRoleName, ChannelRole.toNat]
  | primary => simp [shellChannelRoleName, ChannelRole.toNat]
  | secondary => simp [shellChannelRoleName, ChannelRole.toNat]

theorem shellParseDeviceRole_eq_ok {arg : CString} {role : DeviceRole} :
    shellParseDeviceRole arg = .ok role ↔ shellDeviceRoleName role ≠ "unknown" ∧ arg = lit (shellDeviceRoleName role) := by
  rw [shellParseDeviceRole, parseName_eq_ok shellDeviceRoleName (by decide) (by decide)]
  cases role <;> simp [shellDeviceRoleName]

theorem shellParseRebroadcastMode_eq_ok {arg : CString} {mode : RebroadcastMode} :
    shellParseRebroadcastMode arg = .ok mode ↔
      shellRebroadcastModeName mode ≠ "unknown" ∧ arg = lit (shellRebroadcastModeName mode) := by
  rw [shellParseRebroadcastMode, parseName_eq_ok shellRebroadcastModeName (by decide) (by decide)]
  cases mode <;> simp [shellRebroadcastModeName]

end Meshtastic
