import Meshtastic.ShellConfig

/-! Copying a channel by hand: what `channel show` prints on one device, typed as the options of `channel set` on
another. -/

namespace Meshtastic
open Bytes

/-! ## Reading what is shown -/

/-- What stands behind a label, on the first line that begins with it. -/
def shownField (label : Octets) (lines : List Octets) : Option Octets :=
  (lines.find? fun line => label.isPrefixOf line).map (List.drop label.length)

def apart (label front : Octets) : Bool := (label.zip front).any fun pair => pair.1 ≠ pair.2

theorem isPrefixOf_apart {label front : Octets} (differ : apart label front = true) (rest : Octets) :
    label.isPrefixOf (front ++ rest) = false := by
  induction label generalizing front with
  | nil => cases differ
  | cons first label ih =>
    cases front with
    | nil => cases differ
    | cons second front =>
      by_cases same : first = second
      · have later : apart label front = true := by simpa [apart, same] using differ
        rw [List.cons_append, List.isPrefixOf_cons_cons, ih later, Bool.and_false]
      · rw [List.cons_append, List.isPrefixOf_cons_cons, beq_false_of_ne same, Bool.false_and]

theorem shownField_skip {label front : Octets} (differ : apart label front = true) (rest : Octets) (lines : List Octets) :
    shownField label ((front ++ rest) :: lines) = shownField label lines := by
  rw [shownField, List.find?_cons_of_neg (by rw [isPrefixOf_apart differ]; exact Bool.false_ne_true)]
  rfl

theorem shownField_here (label rest : Octets) (lines : List Octets) :
    shownField label ((label ++ rest) :: lines) = some rest := by
  have front : label.isPrefixOf (label ++ rest) = true := List.isPrefixOf_iff_prefix.mpr (List.prefix_append label rest)
  rw [shownField, List.find?_cons_of_pos front, Option.map_some, List.drop_left]

def copiedPsk (lines : List Octets) : Option (List CString) :=
  match shownField (ascii "psk hex: ") lines, shownField (ascii "psk: shorthand ") lines with
  | some digits, _ => some [lit "psk", lit "hex", .ofOctets digits]
  | none, some number => some [lit "psk", .ofOctets number]
  | none, none =>
    if ascii "psk: cleartext" ∈ lines ∨ ascii "psk: inherit primary" ∈ lines then some [lit "psk", lit "none"] else none

def copiedOptions (lines : List Octets) : Option (List CString) := do
  let role ← shownField (ascii "role: ") lines
  let name ← shownField (ascii "name: \"") lines
  let uplink ← shownField (ascii "uplink: ") lines
  let downlink ← shownField (ascii "downlink: ") lines
  let psk ← copiedPsk lines
  some ([lit "role", .ofOctets role, lit "name", .ofOctets name.dropLast] ++ psk ++
    [lit "uplink", .ofOctets uplink, lit "downlink", .ofOctets downlink])

/-- A key that `channel set` can be told. -/
def Enterable (psk : Octets) : Prop :=
  psk = [] ∨ (∃ shorthand, psk = [shorthand] ∧ shorthand.toNat ≤ 10) ∨ psk.length = 16 ∨ psk.length = 32

section
variable {build : ShellBuild} {t : ChannelTable} {index : SlotIndex}

theorem ofOctets_of_noNul {octets : Octets} (noNul : (0 : UInt8) ∉ octets) : (CString.ofOctets octets).bytes = octets := by
  unfold CString.ofOctets
  rw [List.takeWhile_eq_self_iff]
  intro octet member
  refine decide_eq_true ?_
  intro zero
  exact noNul (zero ▸ member)

def shownLines (t : ChannelTable) (index : SlotIndex) : List Octets :=
  let ch := t.channelSlots index
  [ascii "index: " ++ decimal index.val, ascii "role: " ++ ascii (shellChannelRoleName ch.role),
    ascii "name: \"" ++ (channelsGetName t.channelSlots index).bytes ++ ascii "\"",
    ascii "hash: 0x" ++ hexByte (channelsGetHash t (UInt8.ofNat index.val)),
    ascii "uplink: " ++ onOff ch.settings.uplinkEnabled, ascii "downlink: " ++ onOff ch.settings.downlinkEnabled] ++
  shellPrintPskSummary ch ++ shellPrintPskHex ch

theorem cmdChannelShow_lines {command target : CString} (parsed : shellParseChannelIndex build.toStoreBuild target = .ok index)
    (present : (t.channelSlots index).hasSettings = true) :
    (cmdChannelShow build t [command, target]).lines = shownLines t index := by
  simp only [cmdChannelShow, parsed, present, if_true, shownLines]
  rfl

theorem shownField_role :
    shownField (ascii "role: ") (shownLines t index) = some (ascii (shellChannelRoleName (t.channelSlots index).role)) := by
  have skip : ∀ rest lines, shownField (ascii "role: ") ((ascii "index: " ++ rest) :: lines) =
      shownField (ascii "role: ") lines := shownField_skip (by decide)
  rw [shownLines, List.cons_append, List.cons_append, skip, List.cons_append, List.cons_append, shownField_here]

theorem shownField_later {label : Octets}
    (other : ∀ front ∈ [ascii "index: ", ascii "role: ", ascii "name: \"", ascii "hash: 0x", ascii "uplink: ",
      ascii "downlink: "], apart label front = true) :
    shownField label (shownLines t index) =
      shownField label (shellPrintPskSummary (t.channelSlots index) ++ shellPrintPskHex (t.channelSlots index)) := by
  simp only [List.forall_mem_cons] at other
  obtain ⟨first, second, third, fourth, fifth, sixth, -⟩ := other
  rw [shownLines]
  simp only [List.cons_append, List.nil_append, List.append_assoc]
  rw [shownField_skip first, shownField_skip second, shownField_skip third, shownField_skip fourth,
    shownField_skip fifth, shownField_skip sixth]

theorem shownField_name :
    shownField (ascii "name: \"") (shownLines t index) =
      some ((channelsGetName t.channelSlots index).bytes ++ ascii "\"") := by
  have skip : ∀ front, apart (ascii "name: \"") front = true → ∀ rest lines,
      shownField (ascii "name: \"") ((front ++ rest) :: lines) = shownField (ascii "name: \"") lines :=
    fun front differ => shownField_skip differ
  rw [shownLines]
  simp only [List.cons_append, List.nil_append, List.append_assoc]
  rw [skip (ascii "index: ") (by decide), skip (ascii "role: ") (by decide), shownField_here]

theorem shownField_uplink :
    shownField (ascii "uplink: ") (shownLines t index) = some (onOff (t.channelSlots index).settings.uplinkEnabled) := by
  have skip : ∀ front, apart (ascii "uplink: ") front = true → ∀ rest lines,
      shownField (ascii "uplink: ") ((front ++ rest) :: lines) = shownField (ascii "uplink: ") lines :=
    fun front differ => shownField_skip differ
  rw [shownLines]
  simp only [List.cons_append, List.nil_append, List.append_assoc]
  rw [skip (ascii "index: ") (by decide), skip (ascii "role: ") (by decide), skip (ascii "name: \"") (by decide),
    skip (ascii "hash: 0x") (by decide), shownField_here]

theorem shownField_downlink :
    shownField (ascii "downlink: ") (shownLines t index) = some (onOff (t.channelSlots index).settings.downlinkEnabled) := by
  have skip : ∀ front, apart (ascii "downlink: ") front = true → ∀ rest lines,
      shownField (ascii "downlink: ") ((front ++ rest) :: lines) = shownField (ascii "downlink: ") lines :=
    fun front differ => shownField_skip differ
  rw [shownLines]
  simp only [List.cons_append, List.nil_append, List.append_assoc]
  rw [skip (ascii "index: ") (by decide), skip (ascii "role: ") (by decide), skip (ascii "name: \"") (by decide),
    skip (ascii "hash: 0x") (by decide), skip (ascii "uplink: ") (by decide), shownField_here]

theorem shownField_hex :
    shownField (ascii "psk hex: ") (shownLines t index) = shownField (ascii "psk hex: ")
      (shellPrintPskSummary (t.channelSlots index) ++ shellPrintPskHex (t.channelSlots index)) :=
  shownField_later (by decide)

theorem shownField_shorthand :
    shownField (ascii "psk: shorthand ") (shownLines t index) = shownField (ascii "psk: shorthand ")
      (shellPrintPskSummary (t.channelSlots index) ++ shellPrintPskHex (t.channelSlots index)) :=
  shownField_later (by decide)

theorem hexDigits_noNul_of_lt {digits : List Nat} (small : ∀ digit ∈ digits, digit < 16) :
    (0 : UInt8) ∉ digits.map hexDigit := by
  intro present
  obtain ⟨digit, member, zero⟩ := List.mem_map.mp present
  exact hexDigit_ne_zero digit (small digit member) zero

theorem decimal_noNul (number : Nat) : (0 : UInt8) ∉ decimal number :=
  hexDigits_noNul_of_lt fun digit member =>
    Nat.lt_trans (Numeral.plain_lt (by decide) number digit member) (by decide)

theorem hexKey_noNul (key : Octets) : (0 : UInt8) ∉ key.flatMap hexByte := by
  intro present
  obtain ⟨byte, -, inside⟩ := List.mem_flatMap.mp present
  have range := byte.toNat_lt
  have small : ∀ digit ∈ [byte.toNat / 16, byte.toNat % 16], digit < 16 := by
    simp only [List.forall_mem_cons]
    exact ⟨by omega, by omega, fun digit none => absurd none List.not_mem_nil⟩
  exact hexDigits_noNul_of_lt small inside

theorem shellPrintPsk_none {ch : Channel} (on : ¬ch.Off) (empty : ch.settings.psk = []) :
    shellPrintPskSummary ch ++ shellPrintPskHex ch =
      if ch.role = .secondary then [ascii "psk: inherit primary", ascii "psk: inherit primary"]
      else [ascii "psk: cleartext", ascii "psk: cleartext"] := by
  obtain ⟨present, role⟩ := not_or.mp on
  simp only [shellPrintPskHex, shellPrintPskSummary, present, role, empty, List.length_nil, Bool.true_eq_false, or_self,
    if_false]
  split_ifs <;> simp_all

theorem shellPrintPsk_shorthand {ch : Channel} {shorthand : UInt8} (on : ¬ch.Off) (single : ch.settings.psk = [shorthand]) :
    shellPrintPskSummary ch ++ shellPrintPskHex ch =
      [ascii "psk: shorthand " ++ decimal shorthand.toNat, ascii "psk: shorthand " ++ decimal shorthand.toNat] := by
  obtain ⟨present, role⟩ := not_or.mp on
  simp [shellPrintPskHex, shellPrintPskSummary, present, role, single]

theorem shellPrintPsk_key {ch : Channel} (on : ¬ch.Off)
    (length : ch.settings.psk.length = 16 ∨ ch.settings.psk.length = 32) :
    shellPrintPskSummary ch ++ shellPrintPskHex ch =
      [ascii "psk: " ++ (decimal ch.settings.psk.length ++ ascii "-byte key"),
        ascii "psk hex: " ++ ch.settings.psk.flatMap hexByte] := by
  obtain ⟨present, role⟩ := not_or.mp on
  have printed : ¬(ch.settings.psk.length ≠ 16 ∧ ch.settings.psk.length ≠ 32) := by omega
  have long : ∀ psk : Octets, psk.length = 16 ∨ psk.length = 32 → psk ≠ [] ∧ ∀ shorthand, psk ≠ [shorthand] := by
    intro psk length
    constructor
    · intro none
      simp [none] at length
    · intro shorthand single
      simp [single] at length
  obtain ⟨some, several⟩ := long _ length
  simp only [shellPrintPskHex, shellPrintPskSummary, present, role, printed, Bool.true_eq_false, or_self, if_false]
  rw [List.append_assoc]
  rfl

theorem mem_shownLines {line : Octets}
    (member : line ∈ shellPrintPskSummary (t.channelSlots index) ++ shellPrintPskHex (t.channelSlots index)) :
    line ∈ shownLines t index := by
  rw [shownLines, List.append_assoc]
  exact List.mem_append_right _ member

theorem copiedPsk_spelled (build : ShellBuild) {ch : Channel} (here : t.channelSlots index = ch) (on : ¬ch.Off)
    (enterable : Enterable ch.settings.psk) :
    ∃ words, copiedPsk (shownLines t index) = some words ∧
      ChannelOption.Spelled build (.psk ch.settings.psk) words := by
  unfold copiedPsk
  rw [shownField_hex, shownField_shorthand, here]
  rcases enterable with empty | ⟨shorthand, single, small⟩ | length
  · have printed := shellPrintPsk_none on empty
    have told : ascii "psk: cleartext" ∈ shownLines t index ∨ ascii "psk: inherit primary" ∈ shownLines t index := by
      by_cases inherits : ch.role = .secondary
      · rw [if_pos inherits] at printed
        exact .inr (mem_shownLines (by rw [here, printed]; exact List.mem_cons_self))
      · rw [if_neg inherits] at printed
        exact .inl (mem_shownLines (by rw [here, printed]; exact List.mem_cons_self))
    have noHex : shownField (ascii "psk hex: ") (shellPrintPskSummary ch ++ shellPrintPskHex ch) = none := by
      rw [printed]
      split_ifs <;> rfl
    have noShorthand : shownField (ascii "psk: shorthand ") (shellPrintPskSummary ch ++ shellPrintPskHex ch) = none := by
      rw [printed]
      split_ifs <;> rfl
    rw [noHex, noShorthand, empty]
    exact ⟨_, if_pos told, .pskNone⟩
  · have noHex : ∀ rest lines, shownField (ascii "psk hex: ") ((ascii "psk: shorthand " ++ rest) :: lines) =
        shownField (ascii "psk hex: ") lines := shownField_skip (by decide)
    have wide : 2 ^ 32 ≤ 2 ^ build.ulongBits := Nat.pow_le_pow_right (by decide) build.ulongBits_ge
    have read : strtoulAnyBase build.toStoreBuild (CString.ofOctets (decimal shorthand.toNat)).bytes =
        (shorthand.toNat, []) := by
      rw [ofOctets_of_noNul (decimal_noNul _)]
      exact strtoulAnyBase_decimal (by omega)
    have spelled := ChannelOption.Spelled.pskShorthand read small
    rw [UInt8.ofNat_toNat] at spelled
    rw [shellPrintPsk_shorthand on single, noHex, noHex, shownField_here, single]
    exact ⟨_, rfl, spelled⟩
  · have skip : ∀ rest lines, shownField (ascii "psk hex: ") ((ascii "psk: " ++ rest) :: lines) =
        shownField (ascii "psk hex: ") lines := shownField_skip (by decide)
    have spelled : HexSpells (CString.ofOctets (ch.settings.psk.flatMap hexByte)).bytes ch.settings.psk := by
      rw [ofOctets_of_noNul (hexKey_noNul _)]
      exact hexSpells_printed _
    rw [shellPrintPsk_key on length, skip, shownField_here]
    exact ⟨_, rfl, .pskHex spelled length⟩

theorem ofOctets_ascii_onOff (on : Bool) : decide (CString.ofOctets (onOff on) = lit "on") = on := by
  cases on with
  | false => rfl
  | true => rfl

theorem ofOctets_bytes (text : CString) : CString.ofOctets text.bytes = text := by
  cases text with
  | mk octets noNul =>
    have same := ofOctets_of_noNul noNul
    simp only [CString.ofOctets, CString.mk.injEq] at same ⊢
    exact same

theorem truncate_of_le {text : CString} {count : Nat} (short : text.bytes.length ≤ count) : text.truncate count = text := by
  cases text with
  | mk octets noNul =>
    simp only [CString.truncate, CString.mk.injEq]
    exact List.take_of_length_le short

theorem copiedOptions_spell (build : ShellBuild) {ch : Channel} (here : t.channelSlots index = ch) (on : ¬ch.Off)
    (known : ch.role.toNat ≤ 2) (short : (channelsGetName t.channelSlots index).bytes.length ≤ 11)
    (enterable : Enterable ch.settings.psk) :
    ∃ words, copiedOptions (shownLines t index) = some words ∧
      ChannelOption.Spell build
        [.role ch.role, .name (channelsGetName t.channelSlots index), .psk ch.settings.psk,
          .uplink ch.settings.uplinkEnabled, .downlink ch.settings.downlinkEnabled] words := by
  obtain ⟨key, copied, spelled⟩ := copiedPsk_spelled build here on enterable
  have name : ChannelOption.Spelled build (.name (channelsGetName t.channelSlots index))
      [lit "name", channelsGetName t.channelSlots index] := by
    have spelled : ChannelOption.Spelled build (.name ((channelsGetName t.channelSlots index).truncate 11))
        [lit "name", channelsGetName t.channelSlots index] := .name _
    rw [truncate_of_le short] at spelled
    exact spelled
  have uplink := @ChannelOption.Spelled.uplink build (CString.ofOctets (onOff ch.settings.uplinkEnabled))
  have downlink := @ChannelOption.Spelled.downlink build (CString.ofOctets (onOff ch.settings.downlinkEnabled))
  rw [ofOctets_ascii_onOff] at uplink downlink
  have quoted : ascii "\"" = [0x22] := rfl
  refine ⟨_, ?_, .cons (.role known) (.cons name (.cons spelled (.cons uplink (.cons downlink .nil))))⟩
  simp only [copiedOptions, shownField_role, shownField_name, shownField_uplink, shownField_downlink, copied, here,
    quoted, List.dropLast_concat, ofOctets_bytes, Option.bind_eq_bind, Option.bind_some, List.append_nil,
    List.append_assoc]
  rfl

theorem fixupChannel_name (index : SlotIndex) (ch : Channel) : (fixupChannel index ch).settings.name ≠ CHANNEL_DEFAULT := by
  have renamed : CString.empty ≠ CHANNEL_DEFAULT := by decide
  unfold fixupChannel
  cases ch.hasSettings with
  | false => simp [renamed]
  | true =>
    simp only [if_true]
    split_ifs with default
    · exact renamed
    · exact default

theorem channelsGetName_normal {source : SlotIndex} (normal : fixupChannel source (t.channelSlots source) = t.channelSlots source) :
    channelsGetName t.channelSlots source ≠ CString.empty ∧ channelsGetName t.channelSlots source ≠ CHANNEL_DEFAULT := by
  unfold channelsGetName
  split_ifs with plain
  · exact ⟨by decide, by decide⟩
  · obtain ⟨present, given⟩ := not_or.mp plain
    refine ⟨given, ?_⟩
    intro default
    have kept := fixupChannel_name source (t.channelSlots source)
    rw [normal] at kept
    exact kept default

theorem hashOf_own {ch other : Channel} (primary primary' : Channel) (on : ¬ch.Off) (on' : ¬other.Off)
    (own : ¬ch.Inherits) (own' : ¬other.Inherits) (psk : other.settings.psk = ch.settings.psk) (name : other.shownName = ch.shownName) :
    keyOf other primary' = keyOf ch primary ∧ hashOf other primary' = hashOf ch primary := by
  have keys : keyOf other primary' = keyOf ch primary := by
    simp only [keyOf, on, on', own, own', psk, if_false]
  exact ⟨keys, by rw [hashOf, hashOf, keys, name]⟩

/-- The slot that a copy makes. -/
def copyOf (st : SettingsState) (target : SlotIndex) (ch : Channel) (name : CString) : Channel :=
  asked st.live.table target
    [.role ch.role, .name name, .psk ch.settings.psk, .uplink ch.settings.uplinkEnabled,
      .downlink ch.settings.downlinkEnabled]

theorem copyOf_inherits (st : SettingsState) (target : SlotIndex) {ch : Channel} (name : CString) (on : ¬ch.Off) :
    ¬(copyOf st target ch name).Off ∧ ((copyOf st target ch name).Inherits ↔ ch.Inherits) := by
  obtain ⟨present, role⟩ := not_or.mp on
  have present' : ch.hasSettings = true := by simpa using present
  constructor
  · intro off
    rcases off with missing | disabled
    · cases missing
    · exact role disabled
  · constructor
    · intro inherits
      exact ⟨present', inherits.2⟩
    · intro inherits
      exact ⟨rfl, inherits.2⟩

theorem fixupChannel_copyOf {st : SettingsState} {target : SlotIndex} {ch : Channel} {name : CString}
    (undefault : name ≠ CHANNEL_DEFAULT) :
    fixupChannel target (copyOf st target ch name) = copyOf st target ch name :=
  if_neg undefault

/-- A slot that is on, typed from what one device shows into any slot of another, is the same channel there: the same
role and name, the same key and switches, and unless it takes its key from the primary slot the same key lookup and
hash. -/
theorem shown_channel_copies (build : ShellBuild) (t : ChannelTable) (source : SlotIndex) {shown : CString}
    (named : shellParseChannelIndex build.toStoreBuild shown = .ok source) (on : ¬(t.channelSlots source).Off)
    (known : (t.channelSlots source).role.toNat ≤ 2)
    (normal : fixupChannel source (t.channelSlots source) = t.channelSlots source)
    (short : (t.channelSlots source).settings.name.bytes.length ≤ 11)
    (enterable : Enterable (t.channelSlots source).settings.psk)
    (st : SettingsState) (ends : st.live.table.KeyEnds) (target : SlotIndex) {set : CString}
    (aimed : shellParseChannelIndex build.toStoreBuild set = .ok target)
    (own : target = st.live.table.primaryIndex → ¬(t.channelSlots source).Inherits) :
    ∃ options next answer, copiedOptions (cmdChannelShow build t [lit "show", shown]).lines = some options ∧
      cmdChannelSet build st (lit "set" :: set :: options) = some (answer, next) ∧ answer.code = none ∧
      (next.live.table.channelSlots target).role = (t.channelSlots source).role ∧
      channelsGetName next.live.table.channelSlots target = channelsGetName t.channelSlots source ∧
      (next.live.table.channelSlots target).settings.psk = (t.channelSlots source).settings.psk ∧
      (next.live.table.channelSlots target).settings.uplinkEnabled = (t.channelSlots source).settings.uplinkEnabled ∧
      (next.live.table.channelSlots target).settings.downlinkEnabled = (t.channelSlots source).settings.downlinkEnabled ∧
      (¬(t.channelSlots source).Inherits →
        channelGetKey next.live.table.channelSlots next.live.table.primaryIndex target =
          channelGetKey t.channelSlots t.primaryIndex source ∧
        channelGenerateHash t.channelSlots t.primaryIndex source = some (next.live.table.channelHashes target)) := by
  have present : (t.channelSlots source).hasSettings = true := by
    simpa using (not_or.mp on).1
  have fits : (channelsGetName t.channelSlots source).bytes.length ≤ 11 := by
    unfold channelsGetName
    split_ifs
    · decide
    · exact short
  obtain ⟨nonempty, undefault⟩ := channelsGetName_normal normal
  obtain ⟨options, copied, spell⟩ := copiedOptions_spell build rfl on known fits enterable
  have orders : Orders build (lit "set" :: set :: options) target
      [.role (t.channelSlots source).role, .name (channelsGetName t.channelSlots source),
        .psk (t.channelSlots source).settings.psk, .uplink (t.channelSlots source).settings.uplinkEnabled,
        .downlink (t.channelSlots source).settings.downlinkEnabled] :=
    ⟨lit "set", set, options, rfl, aimed, List.cons_ne_nil _ _, spell⟩
  obtain ⟨line, called⟩ := cmdChannelSet_orders st orders
  have valid : channelIsValid (copyOf st target (t.channelSlots source) (channelsGetName t.channelSlots source)) = true := by
    have length : (t.channelSlots source).settings.psk.length ≤ 32 := by
      rcases enterable with empty | ⟨shorthand, single, -⟩ | length
      · rw [empty]
        decide
      · simp [single]
      · omega
    exact Bool.and_eq_true_iff.mpr ⟨decide_eq_true known, decide_eq_true length⟩
  obtain ⟨on', chains⟩ := copyOf_inherits st target (channelsGetName t.channelSlots source) on
  obtain ⟨table, set⟩ := (@channelsSetSlot_returns_iff st.live.table target
    (copyOf st target (t.channelSlots source) (channelsGetName t.channelSlots source)) ends).mpr
      fun here => mt chains.mp (own here)
  have stored := setChannel_slot st target (copyOf st target (t.channelSlots source) (channelsGetName t.channelSlots source))
  rw [if_pos valid, set] at stored
  obtain ⟨-, written, computed, -⟩ := channelsSetSlot_eq_some set
  rw [fixupChannel_copyOf undefault] at written
  have name : channelsGetName table.channelSlots target = channelsGetName t.channelSlots source := by
    rw [channelsGetName, written]
    refine if_neg ?_
    intro plain
    rcases plain with missing | empty
    · cases missing
    · exact nonempty empty
  refine ⟨options, { store := st.store.withChannel target _, live := { st.live with table := table } }, _,
    by rw [cmdChannelShow_lines named present, copied], by rw [called, ← copyOf, stored]; rfl, rfl, ?_⟩
  simp only [written]
  refine ⟨rfl, name, rfl, rfl, rfl, ?_⟩
  intro keyed
  have sameName : (table.channelSlots target).shownName = (t.channelSlots source).shownName := name
  rw [written] at sameName
  have same := hashOf_own (t.channelSlots t.primaryIndex) (table.channelSlots table.primaryIndex) on on' keyed
    (mt chains.mp keyed) rfl sameName
  rw [channelGetKey_eq, channelGetKey_eq, channelGenerateHash_eq, written, same.1, ← same.2, ← computed, written]
  exact ⟨rfl, rfl⟩

end

def privateChannel : Channel :=
  { hasSettings := true, role := .secondary
    settings := { psk := defaultPsk, name := lit "Private", uplinkEnabled := true } }

def privateTable : ChannelTable := (channelsSetSlot plainLive.table 1 privateChannel).getD plainLive.table

theorem shown_channel_copies_private :
    ∃ options next answer,
      copiedOptions (cmdChannelShow plainShell privateTable [lit "show", lit "1"]).lines = some options ∧
      cmdChannelSet plainShell plainDevice (lit "set" :: lit "2" :: options) = some (answer, next) ∧
      channelGetKey next.live.table.channelSlots next.live.table.primaryIndex 2 = some (.ok defaultPsk) ∧
      channelGenerateHash privateTable.channelSlots privateTable.primaryIndex 1 = some (next.live.table.channelHashes 2) := by
  obtain ⟨options, next, answer, copied, set, -, -, -, -, -, -, keyed⟩ :=
    @shown_channel_copies plainShell privateTable 1 (lit "1") rfl (by decide) (by decide) rfl (by decide)
      (.inr (.inr (.inl rfl))) plainDevice (fun chain => absurd chain (by decide)) 2 (lit "2") rfl (by decide)
  obtain ⟨key, hash⟩ := keyed (by decide)
  exact ⟨options, next, answer, copied, set, key, hash⟩

end Meshtastic
