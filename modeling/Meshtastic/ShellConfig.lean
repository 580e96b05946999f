import Meshtastic.KeyLookup
import Meshtastic.ShellWords

/-! The commands of `meshtastic_shell.c` that show and change channel slots and the policy of the device. The
words of `channel set` are a language of options, read in order over the slot as it is. -/

namespace Meshtastic
open Bytes

structure ShellAnswer where
  lines : List Octets := []
  code : Option Errno := none

def refused (line : Octets) : ShellAnswer := { lines := [line], code := some .einval }

/-- The numbers that the C library gives its errors. -/
structure ShellBuild extends StoreBuild where
  errnoOf : Errno → Nat

section
variable (build : ShellBuild)

def failed (front : String) (err : Errno) : ShellAnswer :=
  { lines := [ascii front ++ ascii "-" ++ decimal (build.errnoOf err)], code := some err }

/-! ## Showing a slot -/

def onOff (value : Bool) : Octets := if value then ascii "on" else ascii "off"

def shellPrintPskSummary (ch : Channel) : List Octets :=
  if ch.hasSettings = false then [ascii "psk: (none)"]
  else if ch.role = .disabled then [ascii "psk: n/a"]
  else
    match ch.settings.psk with
    | [] => if ch.role = .secondary then [ascii "psk: inherit primary"] else [ascii "psk: cleartext"]
    | [shorthand] => [ascii "psk: shorthand " ++ decimal shorthand.toNat]
    | psk => [ascii "psk: " ++ decimal psk.length ++ ascii "-byte key"]

def shellPrintPskHex (ch : Channel) : List Octets :=
  if ch.hasSettings = false ∨ ch.role = .disabled then []
  else if ch.settings.psk.length ≠ 16 ∧ ch.settings.psk.length ≠ 32 then shellPrintPskSummary ch
  else [ascii "psk hex: " ++ ch.settings.psk.flatMap hexByte]

def cmdChannelShow (t : ChannelTable) : List CString → ShellAnswer
  | [_, target] =>
    match shellParseChannelIndex build.toStoreBuild target with
    | .error line => refused line
    | .ok index =>
      let ch := t.channelSlots index
      { lines :=
          [ascii "index: " ++ decimal index.val, ascii "role: " ++ ascii (shellChannelRoleName ch.role),
            ascii "name: \"" ++ (channelsGetName t.channelSlots index).bytes ++ ascii "\"",
            ascii "hash: 0x" ++ hexByte (channelsGetHash t (UInt8.ofNat index.val))] ++
          (if ch.hasSettings then
            [ascii "uplink: " ++ onOff ch.settings.uplinkEnabled, ascii "downlink: " ++ onOff ch.settings.downlinkEnabled]
          else []) ++
          shellPrintPskSummary ch ++ shellPrintPskHex ch }
  | _ => refused (ascii "usage: meshtastic channel show <index>")

/-! ## Setting a slot -/

def Channel.withName (ch : Channel) (name : CString) : Channel := { ch with settings := { ch.settings with name := name } }
def Channel.withRole (ch : Channel) (role : ChannelRole) : Channel := { ch with role := role }
def Channel.withPsk (ch : Channel) (psk : Octets) : Channel := { ch with settings := { ch.settings with psk := psk } }
def Channel.withUplink (ch : Channel) (on : Bool) : Channel :=
  { ch with settings := { ch.settings with uplinkEnabled := on } }
def Channel.withDownlink (ch : Channel) (on : Bool) : Channel :=
  { ch with settings := { ch.settings with downlinkEnabled := on } }

def shellApplyChannelPsk (ch : Channel) (kind : CString) (arg : Option CString) : Except Octets Channel :=
  if kind = lit "none" then .ok (ch.withPsk [])
  else if kind = lit "default" then .ok (ch.withPsk [1])
  else if kind = lit "hex" then
    match arg with
    | none => .error (ascii "usage: psk hex <32|64 hex chars>")
    | some hex =>
      match shellParseHexPsk hex with
      | .error line => .error line
      | .ok key => .ok (ch.withPsk key)
  else if (strtoulAnyBase build.toStoreBuild kind.bytes).2 ≠ [] ∨
      10 < (strtoulAnyBase build.toStoreBuild kind.bytes).1 then .error (ascii "invalid psk: " ++ kind.bytes)
  else .ok (ch.withPsk [UInt8.ofNat (strtoulAnyBase build.toStoreBuild kind.bytes).1])

def channelSetLoop : List CString → Channel → Bool → Except Octets (Channel × Bool)
  | [], ch, changed => .ok (ch, changed)
  | option :: rest, ch, _ =>
    if option = lit "name" then
      match rest with
      | [] => .error (ascii "name requires a value")
      | value :: rest => channelSetLoop rest (ch.withName (value.truncate 11)) true
    else if option = lit "role" then
      match rest with
      | [] => .error (ascii "role requires a value")
      | value :: rest =>
        match shellParseChannelRole value with
        | .error line => .error line
        | .ok role => channelSetLoop rest (ch.withRole role) true
    else if option = lit "psk" then
      match rest with
      | [] => .error (ascii "psk requires a value")
      | kind :: rest =>
        if kind = lit "hex" then
          match rest with
          | [] => .error (ascii "psk hex requires hex digits")
          | digits :: rest =>
            match shellApplyChannelPsk build ch (lit "hex") (some digits) with
            | .error line => .error line
            | .ok ch => channelSetLoop rest ch true
        else
          match shellApplyChannelPsk build ch kind none with
          | .error line => .error line
          | .ok ch => channelSetLoop rest ch true
    else if option = lit "uplink" then
      match rest with
      | [] => .error (ascii "uplink requires on|off")
      | value :: rest => channelSetLoop rest (ch.withUplink (value = lit "on")) true
    else if option = lit "downlink" then
      match rest with
      | [] => .error (ascii "downlink requires on|off")
      | value :: rest => channelSetLoop rest (ch.withDownlink (value = lit "on")) true
    else .error (ascii "unknown option: " ++ option.bytes)

def slotCopy (t : ChannelTable) (index : SlotIndex) : Channel :=
  { t.channelSlots index with index := index.val, hasSettings := true }

/-- `cmd_channel_set`; `none` when the store's key lookup never returns. -/
def cmdChannelSet (st : SettingsState) : List CString → Option (ShellAnswer × SettingsState)
  | _ :: target :: word :: words =>
    match shellParseChannelIndex build.toStoreBuild target with
    | .error line => some (refused line, st)
    | .ok index =>
      match channelSetLoop build (word :: words) (slotCopy st.live.table index) false with
      | .error line => some (refused line, st)
      | .ok (_, false) => some (refused (ascii "no channel options specified"), st)
      | .ok (ch, true) =>
        match setChannel st (UInt8.ofNat index.val) (some ch) with
        | none => none
        | some (some err, st) => some (failed build "channel set failed: " err, st)
        | some (none, st) =>
          some ({ lines := [ascii "channel " ++ decimal index.val ++ ascii " updated (hash=0x" ++
            hexByte (channelsGetHash st.live.table (UInt8.ofNat index.val)) ++ ascii ")"] }, st)
  | _ =>
    some (refused (ascii ("usage: meshtastic channel set <index> [name <str>] [role primary|secondary|disabled] " ++
      "[psk none|default|<0-10>|hex <hex>] [uplink on|off] [downlink on|off]")), st)

def cmdChannelDisable (st : SettingsState) : List CString → Option (ShellAnswer × SettingsState)
  | [_, target] =>
    match shellParseChannelIndex build.toStoreBuild target with
    | .error line => some (refused line, st)
    | .ok index =>
      match setChannel st (UInt8.ofNat index.val)
          (some { st.live.table.channelSlots index with role := .disabled, hasSettings := true }) with
      | none => none
      | some (some err, st) => some (failed build "channel disable failed: " err, st)
      | some (none, st) => some ({ lines := [ascii "channel " ++ decimal index.val ++ ascii " disabled"] }, st)
  | _ => some (refused (ascii "usage: meshtastic channel disable <index>"), st)

/-! ## Device policy -/

def cmdDeviceRole (st : SettingsState) : List CString → ShellAnswer × SettingsState
  | [_] => ({ lines := [ascii "role: " ++ ascii (shellDeviceRoleName st.live.deviceRole)] }, st)
  | [_, name] =>
    match shellParseDeviceRole name with
    | .error line => (refused line, st)
    | .ok role =>
      match setDeviceRole st role with
      | (some err, st) => (failed build "role set failed: " err, st)
      | (none, st) => ({ lines := [ascii "role set to " ++ ascii (shellDeviceRoleName role)] }, st)
  | _ => (refused (ascii "usage: meshtastic device role [name]"), st)

def cmdDeviceRebroadcast (st : SettingsState) : List CString → ShellAnswer × SettingsState
  | [_] => ({ lines := [ascii "rebroadcast: " ++ ascii (shellRebroadcastModeName st.live.rebroadcastMode)] }, st)
  | [_, name] =>
    match shellParseRebroadcastMode name with
    | .error line => (refused line, st)
    | .ok mode =>
      match setRebroadcastMode st mode with
      | (some err, st) => (failed build "rebroadcast set failed: " err, st)
      | (none, st) => ({ lines := [ascii "rebroadcast set to " ++ ascii (shellRebroadcastModeName mode)] }, st)
  | _ => (refused (ascii "usage: meshtastic device rebroadcast [mode]"), st)

/-! ## The language of options -/

inductive ChannelOption where
  | name (text : CString)
  | role (role : ChannelRole)
  | psk (key : Octets)
  | uplink (on : Bool)
  | downlink (on : Bool)
  deriving DecidableEq

def ChannelOption.apply (ch : Channel) : ChannelOption → Channel
  | .name text => ch.withName text
  | .role named => ch.withRole named
  | .psk key => ch.withPsk key
  | .uplink on => ch.withUplink on
  | .downlink on => ch.withDownlink on

/-- The words for one option. A name keeps its first eleven characters, and a switch is off unless it says `on`. -/
inductive ChannelOption.Spelled : ChannelOption → List CString → Prop
  | name (text : CString) : Spelled (.name (text.truncate 11)) [lit "name", text]
  | role {role : ChannelRole} (known : role.toNat ≤ 2) : Spelled (.role role) [lit "role", lit (shellChannelRoleName role)]
  | pskNone : Spelled (.psk []) [lit "psk", lit "none"]
  | pskDefault : Spelled (.psk [1]) [lit "psk", lit "default"]
  | pskHex {digits : CString} {key : Octets} (spelled : HexSpells digits.bytes key)
      (length : key.length = 16 ∨ key.length = 32) : Spelled (.psk key) [lit "psk", lit "hex", digits]
  | pskShorthand {number : CString} {value : Nat} (read : strtoulAnyBase build.toStoreBuild number.bytes = (value, []))
      (small : value ≤ 10) : Spelled (.psk [UInt8.ofNat value]) [lit "psk", number]
  | uplink (value : CString) : Spelled (.uplink (value = lit "on")) [lit "uplink", value]
  | downlink (value : CString) : Spelled (.downlink (value = lit "on")) [lit "downlink", value]

inductive ChannelOption.Spell : List ChannelOption → List CString → Prop
  | nil : Spell [] []
  | cons {option : ChannelOption} {words : List CString} {options : List ChannelOption} {rest : List CString}
      (first : option.Spelled build words) (later : Spell options rest) : Spell (option :: options) (words ++ rest)

end

section
variable {build : ShellBuild}

theorem pskKind_not_number {kind : CString} {value : Nat}
    (read : strtoulAnyBase build.toStoreBuild kind.bytes = (value, [])) :
    kind ≠ lit "none" ∧ kind ≠ lit "default" ∧ kind ≠ lit "hex" := by
  have unread : ∀ text : CString, text ∈ [lit "none", lit "default", lit "hex"] →
      (strtoulAnyBase build.toStoreBuild text.bytes).2 ≠ [] := by
    intro text member
    simp only [List.mem_cons, List.not_mem_nil, or_false] at member
    rcases member with same | same | same
    all_goals
      rw [same]
      exact List.cons_ne_nil _ _
  have ended : (strtoulAnyBase build.toStoreBuild kind.bytes).2 = [] := by rw [read]
  refine ⟨?_, ?_, ?_⟩
  all_goals
    intro same
    exact unread kind (by simp [same]) ended

theorem option_words :
    lit "role" ≠ lit "name" ∧ lit "psk" ≠ lit "name" ∧ lit "psk" ≠ lit "role" ∧
    lit "uplink" ≠ lit "name" ∧ lit "uplink" ≠ lit "role" ∧ lit "uplink" ≠ lit "psk" ∧
    lit "downlink" ≠ lit "name" ∧ lit "downlink" ≠ lit "role" ∧ lit "downlink" ≠ lit "psk" ∧
    lit "downlink" ≠ lit "uplink" ∧ lit "none" ≠ lit "hex" ∧ lit "default" ≠ lit "hex" ∧ lit "default" ≠ lit "none" ∧
    lit "hex" ≠ lit "none" ∧ lit "hex" ≠ lit "default" := by decide

theorem shellApplyChannelPsk_hex {ch : Channel} {digits : CString} {key : Octets}
    (read : shellParseHexPsk digits = .ok key) :
    shellApplyChannelPsk build ch (lit "hex") (some digits) = .ok (ch.withPsk key) := by
  have words := option_words
  simp only [shellApplyChannelPsk, words, read, if_true, if_false]

theorem shellApplyChannelPsk_shorthand {ch : Channel} {number : CString} {value : Nat}
    (read : strtoulAnyBase build.toStoreBuild number.bytes = (value, [])) (small : value ≤ 10) :
    shellApplyChannelPsk build ch number none = .ok (ch.withPsk [UInt8.ofNat value]) := by
  obtain ⟨noNone, noDefault, noHex⟩ := pskKind_not_number read
  simp only [shellApplyChannelPsk, noNone, noDefault, noHex, if_false, read, ne_eq, not_true_eq_false, false_or,
    Nat.not_lt.mpr small]

theorem ChannelOption.Spelled.loop {option : ChannelOption} {words : List CString} (spelled : option.Spelled build words)
    (rest : List CString) (ch : Channel) (changed : Bool) :
    channelSetLoop build (words ++ rest) ch changed = channelSetLoop build rest (option.apply ch) true := by
  have apart := option_words
  rw [channelSetLoop.eq_def]
  cases spelled with
  | name text => simp only [List.cons_append, List.nil_append, if_true, apply]
  | role known =>
    simp only [List.cons_append, List.nil_append, apart, if_true, if_false, shellParseChannelRole_eq_ok.mpr ⟨known, rfl⟩, apply]
  | pskNone => simp only [List.cons_append, List.nil_append, apart, if_true, if_false, shellApplyChannelPsk, apply]
  | pskDefault => simp only [List.cons_append, List.nil_append, apart, if_true, if_false, shellApplyChannelPsk, apply]
  | pskHex spelled length =>
    have read := shellParseHexPsk_eq_ok.mpr ⟨spelled, length⟩
    simp only [List.cons_append, List.nil_append, apart, if_true, if_false, shellApplyChannelPsk_hex read, apply]
  | pskShorthand read small =>
    obtain ⟨-, -, noHex⟩ := pskKind_not_number read
    simp only [List.cons_append, List.nil_append, apart, noHex, if_true, if_false,
      shellApplyChannelPsk_shorthand read small, apply]
  | uplink value => simp only [List.cons_append, List.nil_append, apart, if_true, if_false, apply]
  | downlink value => simp only [List.cons_append, List.nil_append, apart, if_true, if_false, apply]

theorem shellApplyChannelPsk_kind {ch next : Channel} {kind : CString} (notHex : kind ≠ lit "hex")
    (applied : shellApplyChannelPsk build ch kind none = .ok next) :
    ∃ option, ChannelOption.Spelled build option [lit "psk", kind] ∧ next = option.apply ch := by
  unfold shellApplyChannelPsk at applied
  split_ifs at applied with isNone isDefault read
  · cases applied
    rw [isNone]
    exact ⟨_, .pskNone, rfl⟩
  · cases applied
    rw [isDefault]
    exact ⟨_, .pskDefault, rfl⟩
  · cases applied
    simp only [not_or, not_not, Nat.not_lt] at read
    exact ⟨_, .pskShorthand (Prod.ext rfl read.1) read.2, rfl⟩

theorem channelSetLoop_takes {option : CString} {words : List CString} {ch : Channel} {changed : Bool}
    {result : Channel × Bool} (read : channelSetLoop build (option :: words) ch changed = .ok result) :
    ∃ asked taken rest, option :: words = taken ++ rest ∧ taken ≠ [] ∧ ChannelOption.Spelled build asked taken ∧
      channelSetLoop build rest (asked.apply ch) true = .ok result := by
  rw [channelSetLoop.eq_def] at read
  simp only at read
  split_ifs at read with isName isRole isPsk isUplink isDownlink
  · cases words with
    | nil => cases read
    | cons value rest =>
      rw [isName]
      exact ⟨_, [lit "name", value], rest, rfl, List.cons_ne_nil _ _, .name value, read⟩
  · cases words with
    | nil => cases read
    | cons value rest =>
      simp only at read
      cases role : shellParseChannelRole value with
      | error line =>
        rw [role] at read
        cases read
      | ok role' =>
        rw [role] at read
        obtain ⟨known, same⟩ := shellParseChannelRole_eq_ok.mp role
        rw [isRole, same]
        exact ⟨_, [lit "role", _], rest, rfl, List.cons_ne_nil _ _, .role known, read⟩
  · cases words with
    | nil => cases read
    | cons kind rest =>
      simp only at read
      split_ifs at read with isHex
      · cases rest with
        | nil => cases read
        | cons digits rest =>
          have words := option_words
          simp only [shellApplyChannelPsk, words, if_true, if_false] at read
          cases key : shellParseHexPsk digits with
          | error line =>
            rw [key] at read
            cases read
          | ok key' =>
            rw [key] at read
            obtain ⟨spelled, length⟩ := shellParseHexPsk_eq_ok.mp key
            rw [isPsk, isHex]
            exact ⟨_, [lit "psk", lit "hex", digits], rest, rfl, List.cons_ne_nil _ _, .pskHex spelled length, read⟩
      · cases applied : shellApplyChannelPsk build ch kind none with
        | error line =>
          rw [applied] at read
          cases read
        | ok next =>
          rw [applied] at read
          obtain ⟨asked, spelled, same⟩ := shellApplyChannelPsk_kind isHex applied
          rw [isPsk]
          rw [same] at read
          exact ⟨asked, [lit "psk", kind], rest, rfl, List.cons_ne_nil _ _, spelled, read⟩
  · cases words with
    | nil => cases read
    | cons value rest =>
      rw [isUplink]
      exact ⟨_, [lit "uplink", value], rest, rfl, List.cons_ne_nil _ _, .uplink value, read⟩
  · cases words with
    | nil => cases read
    | cons value rest =>
      rw [isDownlink]
      exact ⟨_, [lit "downlink", value], rest, rfl, List.cons_ne_nil _ _, .downlink value, read⟩

theorem ChannelOption.Spell.ne_nil {options : List ChannelOption} {words : List CString}
    (spell : ChannelOption.Spell build options words) : options = [] ↔ words = [] := by
  cases spell with
  | nil => simp
  | cons first later =>
    constructor
    · intro none
      cases none
    · intro none
      cases first <;> cases none

theorem ChannelOption.Spell.loop {options : List ChannelOption} {words : List CString}
    (spell : ChannelOption.Spell build options words) (ch : Channel) (changed : Bool) :
    channelSetLoop build words ch changed = .ok (options.foldl ChannelOption.apply ch, changed || !options.isEmpty) := by
  induction spell generalizing ch changed with
  | nil =>
    rw [channelSetLoop.eq_def]
    simp
  | cons first later ih =>
    rw [first.loop, ih]
    simp

theorem channelSetLoop_spell (length : Nat) {words : List CString} (short : words.length = length) {ch : Channel}
    {changed : Bool} {result : Channel × Bool} (read : channelSetLoop build words ch changed = .ok result) :
    ∃ options, ChannelOption.Spell build options words := by
  induction length using Nat.strong_induction_on generalizing words ch changed with
  | h length ih =>
    cases words with
    | nil => exact ⟨[], .nil⟩
    | cons option words =>
      obtain ⟨asked, taken, rest, split, some, spelled, later⟩ := channelSetLoop_takes read
      have shorter : rest.length < length := by
        have total := congrArg List.length split
        rw [short, List.length_append] at total
        have := List.length_pos_of_ne_nil some
        omega
      obtain ⟨options, spell⟩ := ih rest.length shorter rfl later
      rw [split]
      exact ⟨asked :: options, .cons spelled spell⟩

/-- The loop accepts exactly the words that spell options, and applies these in order. -/
theorem channelSetLoop_eq_ok {words : List CString} {ch : Channel} {changed : Bool} {result : Channel × Bool} :
    channelSetLoop build words ch changed = .ok result ↔
      ∃ options, ChannelOption.Spell build options words ∧
        result = (options.foldl ChannelOption.apply ch, changed || !options.isEmpty) := by
  constructor
  · intro read
    obtain ⟨options, spell⟩ := channelSetLoop_spell words.length rfl read
    have same := read.symm.trans (spell.loop ch changed)
    exact ⟨options, spell, Except.ok.inj same⟩
  · intro spelled
    obtain ⟨options, spell, same⟩ := spelled
    rw [same]
    exact spell.loop ch changed

/-! ## What `channel set` does -/

def Orders (build : ShellBuild) (argv : List CString) (index : SlotIndex) (options : List ChannelOption) : Prop :=
  ∃ command target words, argv = command :: target :: words ∧
    shellParseChannelIndex build.toStoreBuild target = .ok index ∧ options ≠ [] ∧ ChannelOption.Spell build options words

def asked (t : ChannelTable) (index : SlotIndex) (options : List ChannelOption) : Channel :=
  options.foldl ChannelOption.apply (slotCopy t index)

/-- A slot of the store and of the table is set, and nothing else of the device. -/
structure SlotSet (st next : SettingsState) (index : SlotIndex) (channel : Channel) : Prop where
  valid : channelIsValid channel = true
  store : next.store = st.store.withChannel index channel
  table : channelsSetSlot st.live.table index channel = some next.live.table
  live : next.live = { st.live with table := next.live.table }

section
variable {st next : SettingsState} {index : SlotIndex} {channel : Channel} {argv : List CString}
  {options : List ChannelOption} {answer : ShellAnswer}

theorem slotByte_toNat : ∀ index : SlotIndex, (UInt8.ofNat index.val).toNat = index.val := by decide

theorem setChannel_slot (st : SettingsState) (index : SlotIndex) (channel : Channel) :
    setChannel st (UInt8.ofNat index.val) (some channel) =
      if channelIsValid channel then
        (channelsSetSlot st.live.table index channel).map fun table =>
          (none, { store := st.store.withChannel index channel, live := { st.live with table := table } })
      else some (some .einval, st) := by
  have range : (UInt8.ofNat index.val).toNat < MAX_CHANNELS := by
    rw [slotByte_toNat]
    exact index.isLt
  have same : (⟨(UInt8.ofNat index.val).toNat, range⟩ : SlotIndex) = index := Fin.ext (slotByte_toNat index)
  simp only [setChannel, dif_pos range, channelsSetSlotChecked_inRange range, same]
  split_ifs with valid
  · cases channelsSetSlot st.live.table index channel with
    | none => rfl
    | some table => rfl
  · rfl

theorem setChannel_accepted (done : setChannel st (UInt8.ofNat index.val) (some channel) = some (none, next)) :
    SlotSet st next index channel := by
  rw [setChannel_slot] at done
  split_ifs at done with valid
  · obtain ⟨table, set, same⟩ := Option.map_eq_some_iff.mp done
    cases same
    exact ⟨valid, rfl, set, rfl⟩
  · cases done

theorem setChannel_rejected {err : Errno} (done : setChannel st (UInt8.ofNat index.val) (some channel) = some (some err, next)) :
    err = .einval ∧ next = st ∧ ¬channelIsValid channel := by
  rw [setChannel_slot] at done
  split_ifs at done with valid
  · obtain ⟨table, set, same⟩ := Option.map_eq_some_iff.mp done
    cases same
  · cases done
    exact ⟨rfl, rfl, valid⟩

theorem cmdChannelSet_orders (st : SettingsState) (orders : Orders build argv index options) :
    ∃ line : Option Errno → SettingsState → Octets, cmdChannelSet build st argv =
      (setChannel st (UInt8.ofNat index.val) (some (asked st.live.table index options))).map fun result =>
        ({ lines := [line result.1 result.2], code := result.1 }, result.2) := by
  obtain ⟨command, target, words, same, parsed, given, spell⟩ := orders
  have read := spell.loop (slotCopy st.live.table index) false
  have changed : (false || !options.isEmpty) = true := by
    cases options with
    | nil => exact absurd rfl given
    | cons option rest => rfl
  rw [changed] at read
  cases words with
  | nil => exact absurd (spell.ne_nil.mpr rfl) given
  | cons word words =>
    refine ⟨fun code st => code.elim
      (ascii "channel " ++ decimal index.val ++ ascii " updated (hash=0x" ++
        hexByte (channelsGetHash st.live.table (UInt8.ofNat index.val)) ++ ascii ")")
      fun err => ascii "channel set failed: " ++ ascii "-" ++ decimal (build.errnoOf err), ?_⟩
    rw [same]
    simp only [cmdChannelSet, parsed, read]
    rw [← asked]
    cases setChannel st (UInt8.ofNat index.val) (some (asked st.live.table index options)) with
    | none => rfl
    | some result =>
      obtain ⟨code, after⟩ := result
      cases code with
      | none => rfl
      | some err => rfl

theorem cmdChannelSet_disorder (st : SettingsState) (disorder : ∀ index options, ¬Orders build argv index options) :
    ∃ answer, cmdChannelSet build st argv = some (answer, st) ∧ answer.code = some .einval := by
  unfold cmdChannelSet
  split
  · next command target word words =>
    cases parsed : shellParseChannelIndex build.toStoreBuild target with
    | error line => exact ⟨_, rfl, rfl⟩
    | ok index =>
      simp only
      cases read : channelSetLoop build (word :: words) (slotCopy st.live.table index) false with
      | error line => exact ⟨_, rfl, rfl⟩
      | ok result =>
        obtain ⟨options, spell, -⟩ := channelSetLoop_eq_ok.mp read
        have given : options ≠ [] := fun none => absurd (spell.ne_nil.mp none) (List.cons_ne_nil _ _)
        exact (disorder index options ⟨command, target, word :: words, rfl, parsed, given, spell⟩).elim
  · exact ⟨_, rfl, rfl⟩

theorem cmdChannelSet_endless (ends : st.live.table.KeyEnds) (orders : Orders build argv index options) :
    cmdChannelSet build st argv = none ↔ index = st.live.table.primaryIndex ∧
      channelIsValid (asked st.live.table index options) = true ∧ (asked st.live.table index options).Inherits := by
  obtain ⟨line, done⟩ := cmdChannelSet_orders st orders
  have returns := @channelsSetSlot_returns_iff st.live.table index (asked st.live.table index options) ends
  rw [← Option.ne_none_iff_exists'] at returns
  rw [done, Option.map_eq_none_iff, setChannel_slot]
  split_ifs with valid
  · rw [Option.map_eq_none_iff, ← not_iff_not, ← Ne, returns]
    simp only [valid, true_and, not_and]
  · simp [valid]

/-- `channel set` obeys exactly the command lines of the language. One that asks of a slot what the store takes sets
this slot to what was asked, with the options in order; any other is refused and changes nothing; and the command
never returns exactly when it would make the primary slot take its key from the primary slot. -/
theorem channel_set_obeys (build : ShellBuild) (st : SettingsState) (ends : st.live.table.KeyEnds) (argv : List CString) :
    (cmdChannelSet build st argv = none ↔ ∃ options, Orders build argv st.live.table.primaryIndex options ∧
      channelIsValid (asked st.live.table st.live.table.primaryIndex options) = true ∧
      (asked st.live.table st.live.table.primaryIndex options).Inherits) ∧
    ∀ answer next, cmdChannelSet build st argv = some (answer, next) →
      (∃ index options, Orders build argv index options ∧ answer.code = none ∧
        SlotSet st next index (asked st.live.table index options)) ∨
      ((∀ index options, Orders build argv index options → ¬channelIsValid (asked st.live.table index options)) ∧
        answer.code = some .einval ∧ next = st) := by
  constructor
  · constructor
    · intro endless
      by_cases ordered : ∃ index options, Orders build argv index options
      · obtain ⟨index, options, orders⟩ := ordered
        obtain ⟨primary, valid, inherits⟩ := (cmdChannelSet_endless ends orders).mp endless
        rw [primary] at orders valid inherits
        exact ⟨options, orders, valid, inherits⟩
      · obtain ⟨answer, done, -⟩ := cmdChannelSet_disorder st fun index options orders => ordered ⟨index, options, orders⟩
        rw [done] at endless
        cases endless
    · intro chained
      obtain ⟨options, orders, valid, inherits⟩ := chained
      exact (cmdChannelSet_endless ends orders).mpr ⟨rfl, valid, inherits⟩
  · intro answer next done
    by_cases ordered : ∃ index options, Orders build argv index options
    · obtain ⟨index, options, orders⟩ := ordered
      obtain ⟨line, called⟩ := cmdChannelSet_orders st orders
      rw [called] at done
      obtain ⟨⟨code, after⟩, stored, same⟩ := Option.map_eq_some_iff.mp done
      cases same
      cases code with
      | none => exact .inl ⟨index, options, orders, rfl, setChannel_accepted stored⟩
      | some err =>
        obtain ⟨code, kept, -⟩ := setChannel_rejected stored
        rw [code, kept]
        refine .inr ⟨?_, rfl, rfl⟩
        -- whatever else the words might spell, the command made the same refused call of it
        intro index' options' orders' valid
        obtain ⟨line', called'⟩ := cmdChannelSet_orders st orders'
        rw [called, stored] at called'
        obtain ⟨⟨code', after'⟩, stored', same'⟩ := Option.map_eq_some_iff.mp called'.symm
        cases code' with
        | none => cases congrArg (fun result => result.1.code) same'
        | some err' => exact (setChannel_rejected stored').2.2 valid
    · have disorder : ∀ index options, ¬Orders build argv index options :=
        fun index options orders => ordered ⟨index, options, orders⟩
      obtain ⟨answer', kept, code⟩ := cmdChannelSet_disorder st disorder
      rw [kept] at done
      cases done
      exact .inr ⟨fun index options orders => (disorder index options orders).elim, code, rfl⟩

end

end

def plainShell : ShellBuild := { plainBuild with errnoOf := fun _ => 22 }

def plainDevice : SettingsState := ⟨seedRecords plainBuild plainConfig plainLive, plainLive⟩

theorem channel_set_obeys_chained :
    cmdChannelSet plainShell plainDevice
      [lit "set", lit "0", lit "role", lit "secondary", lit "psk", lit "none"] = none :=
  (channel_set_obeys plainShell plainDevice (fun chain => absurd chain (by decide)) _).1.mpr
    ⟨[.role .secondary, .psk []],
      ⟨lit "set", lit "0", [lit "role", lit "secondary", lit "psk", lit "none"], rfl, rfl, List.cons_ne_nil _ _,
        .cons (@ChannelOption.Spelled.role plainShell .secondary (Nat.le_refl 2)) (.cons .pskNone .nil)⟩, by decide, by decide⟩

end Meshtastic
