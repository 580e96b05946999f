import Meshtastic.SendChannel
import Meshtastic.ShellConfig

/-! The commands of `meshtastic_shell.c` that send. A command checks its words and queues the work, and a thread of
the shell does it in order. -/

namespace Meshtastic
open Bytes

inductive ShellWorkOp where
  | sendText
  | sendPosition
  | sendMetrics
  | sendEnvironment
  | sendNodeinfo
  deriving DecidableEq

/-- `struct shell_work_item` without the shell it came from; the payload is what `payload_len` covers. -/
structure ShellWorkItem where
  op : ShellWorkOp
  dest : UInt32 := 0
  channelIndex : UInt8 := 0
  wantAck : Bool := false
  payload : Octets := []
  deriving DecidableEq

structure ShellSendBuild extends ShellBuild where
  queueSize : Nat
  queueSize_range : 1 ≤ queueSize ∧ queueSize ≤ 16

section
variable (build : ShellSendBuild)

/-! ## Commands -/

/-- `k_msgq_put` without waiting. -/
def enqueueShellWork (queue : List ShellWorkItem) (item : ShellWorkItem) : ShellAnswer × List ShellWorkItem :=
  if build.queueSize ≤ queue.length then
    ({ lines := [ascii "Meshtastic shell queue is full"], code := some .enomsg }, queue)
  else ({ lines := [ascii "queued"] }, queue ++ [item])

def parseOptionalDest : List CString → Except Octets UInt32
  | [_] => .ok NODE_BROADCAST
  | [_, dest] => parseU32 build.toStoreBuild dest
  | _ => .error (ascii "too many arguments")

def cmdDeferredSend (op : ShellWorkOp) (queue : List ShellWorkItem) (argv : List CString) :
    ShellAnswer × List ShellWorkItem :=
  match parseOptionalDest build argv with
  | .error line => (refused line, queue)
  | .ok dest => enqueueShellWork build queue { op := op, dest := dest }

def appendLoop (bufMax : Nat) : Bool → Octets → List CString → Option Octets
  | _, text, [] => some text
  | first, text, arg :: rest =>
    if first = false ∧ bufMax ≤ text.length then none
    else
      let text := if first then text else text ++ [0x20]
      if bufMax < text.length + arg.bytes.length then none else appendLoop bufMax false (text ++ arg.bytes) rest

def appendMessageFromArgv (args : List CString) : Except Errno Octets :=
  match appendLoop MAX_TEXT_LEN true [] args with
  | none => .error .enomem
  | some text => .ok text

def textSendUsage : Octets := ascii "usage: meshtastic text send [-a] [-c <index>] [dest|broadcast] <message>"

/-- The loop over the options of `cmd_text_send`: what follows them, the slot and whether an acknowledgement is
wanted. -/
def textOptionLoop : List CString → UInt8 → Bool → Except Octets (List CString × UInt8 × Bool)
  | [], channelIndex, wantAck => .ok ([], channelIndex, wantAck)
  | word :: rest, channelIndex, wantAck =>
    if word = lit "-c" then
      match rest with
      | index :: next :: rest =>
        match shellParseChannelIndex build.toStoreBuild index with
        | .error line => .error line
        | .ok index => textOptionLoop (next :: rest) (UInt8.ofNat index.val) wantAck
      | _ => .error textSendUsage
    else if word = lit "-a" then
      match rest with
      | next :: rest => textOptionLoop (next :: rest) channelIndex true
      | [] => .error textSendUsage
    else .ok (word :: rest, channelIndex, wantAck)

def queueText (queue : List ShellWorkItem) (channelIndex : UInt8) (wantAck : Bool) (dest : UInt32)
    (message : List CString) : ShellAnswer × List ShellWorkItem :=
  let ignored := wantAck && dest == NODE_BROADCAST
  let warning := if ignored then [ascii "-a ignored: broadcasts are not acknowledged"] else []
  let result : ShellAnswer × List ShellWorkItem :=
    match appendMessageFromArgv message with
    | .error err =>
      ({ lines := [ascii "message too long (max " ++ decimal MAX_TEXT_LEN ++ ascii ")"], code := some err }, queue)
    | .ok [] => (refused (ascii "message must not be empty"), queue)
    | .ok (first :: rest) =>
      enqueueShellWork build queue
        { op := .sendText, dest := dest, channelIndex := channelIndex, wantAck := wantAck && !ignored
          payload := first :: rest }
  ({ result.1 with lines := warning ++ result.1.lines }, result.2)

def cmdTextSend (queue : List ShellWorkItem) : List CString → ShellAnswer × List ShellWorkItem
  | _ :: word :: words =>
    match textOptionLoop build (word :: words) CHANNEL_INDEX_INVALID false with
    | .error line => (refused line, queue)
    | .ok ([], _, _) => (refused (ascii "message required"), queue)
    | .ok ([message], channelIndex, wantAck) => queueText build queue channelIndex wantAck NODE_BROADCAST [message]
    | .ok (dest :: next :: rest, channelIndex, wantAck) =>
      match parseU32 build.toStoreBuild dest with
      | .error line => (refused line, queue)
      | .ok dest => queueText build queue channelIndex wantAck dest (next :: rest)
  | _ => (refused textSendUsage, queue)

/-! ## The language of `text send` -/

inductive TextOption where
  | channel (index : SlotIndex)
  | acknowledged
  deriving DecidableEq

inductive TextOption.Spelled : TextOption → List CString → Prop
  | channel {number : CString} {index : SlotIndex} (read : shellParseChannelIndex build.toStoreBuild number = .ok index) :
      Spelled (.channel index) [lit "-c", number]
  | acknowledged : Spelled .acknowledged [lit "-a"]

inductive TextOption.Spell : List TextOption → List CString → Prop
  | nil : Spell [] []
  | cons {option : TextOption} {words : List CString} {options : List TextOption} {rest : List CString}
      (first : option.Spelled build words) (later : Spell options rest) : Spell (option :: options) (words ++ rest)

/-- What stands behind the options: a message of one word, for everyone, or a destination and words. -/
inductive Addressed : List CString → UInt32 → List CString → Prop
  | everyone {message : CString} (plain : message ≠ lit "-c" ∧ message ≠ lit "-a") :
      Addressed [message] NODE_BROADCAST [message]
  | named {word : CString} {dest : UInt32} {message : List CString} (plain : word ≠ lit "-c" ∧ word ≠ lit "-a")
      (read : parseU32 build.toStoreBuild word = .ok dest) (given : message ≠ []) : Addressed (word :: message) dest message

def TextAsks (argv : List CString) (options : List TextOption) (dest : UInt32) (message : List CString) : Prop :=
  ∃ command words rest, argv = command :: (words ++ rest) ∧ TextOption.Spell build options words ∧
    Addressed build rest dest message

end

def TextOption.slot (channelIndex : UInt8) : TextOption → UInt8
  | .channel index => UInt8.ofNat index.val
  | .acknowledged => channelIndex

def joined : List CString → Octets
  | [] => []
  | arg :: rest => arg.bytes ++ rest.flatMap fun arg => 0x20 :: arg.bytes

def textItem (options : List TextOption) (dest : UInt32) (message : List CString) : ShellWorkItem :=
  { op := .sendText, dest := dest, channelIndex := options.foldl TextOption.slot CHANNEL_INDEX_INVALID
    wantAck := options.contains .acknowledged && dest != NODE_BROADCAST, payload := joined message }

/-! ## Reading a command -/

section
variable {build : ShellSendBuild}

theorem appendLoop_later (bufMax : Nat) (text : Octets) (short : text.length ≤ bufMax) (args : List CString) :
    appendLoop bufMax false text args =
      if (text ++ args.flatMap fun arg => 0x20 :: arg.bytes).length ≤ bufMax then
        some (text ++ args.flatMap fun arg => 0x20 :: arg.bytes)
      else none := by
  induction args generalizing text with
  | nil =>
    rw [List.flatMap_nil, List.append_nil, if_pos short]
    rfl
  | cons arg rest ih =>
    have total : (text ++ (arg :: rest).flatMap fun arg => 0x20 :: arg.bytes).length =
        text.length + 1 + arg.bytes.length + (rest.flatMap fun arg => 0x20 :: arg.bytes).length := by
      simp only [List.flatMap_cons, List.length_append, List.length_cons]
      omega
    have step : (text ++ [0x20]).length = text.length + 1 := by simp
    rw [appendLoop]
    by_cases full : bufMax ≤ text.length
    · rw [if_pos ⟨rfl, full⟩, if_neg (by omega)]
    · simp only [full, and_false, if_false, Bool.false_eq_true, step]
      by_cases long : bufMax < text.length + 1 + arg.bytes.length
      · rw [if_pos long, if_neg (by omega)]
      · have fits : (text ++ [0x20] ++ arg.bytes).length ≤ bufMax := by
          rw [List.length_append, step]
          omega
        rw [if_neg long, ih _ fits]
        simp only [List.flatMap_cons, List.append_assoc, List.cons_append, List.nil_append]

theorem appendMessageFromArgv_eq (args : List CString) :
    appendMessageFromArgv args = if (joined args).length ≤ MAX_TEXT_LEN then .ok (joined args) else .error .enomem := by
  unfold appendMessageFromArgv
  cases args with
  | nil => rfl
  | cons arg rest =>
    have total : (joined (arg :: rest)).length =
        arg.bytes.length + (rest.flatMap fun arg => 0x20 :: arg.bytes).length := List.length_append
    rw [appendLoop]
    simp only [Bool.true_eq_false, false_and, if_false, if_true, List.length_nil, Nat.zero_add, List.nil_append]
    by_cases long : MAX_TEXT_LEN < arg.bytes.length
    · rw [if_pos long, if_neg (by omega)]
    · rw [if_neg long, appendLoop_later _ _ (Nat.not_lt.mp long), ← joined]
      by_cases fits : (joined (arg :: rest)).length ≤ MAX_TEXT_LEN
      · rw [if_pos fits, if_pos fits]
      · rw [if_neg fits, if_neg fits]

theorem textOptionLoop_plain {word : CString} {rest : List CString} {channelIndex : UInt8} {wantAck : Bool}
    (plain : word ≠ lit "-c" ∧ word ≠ lit "-a") :
    textOptionLoop build (word :: rest) channelIndex wantAck = .ok (word :: rest, channelIndex, wantAck) := by
  rw [textOptionLoop.eq_def]
  simp only [plain, if_false]

theorem TextOption.Spell.loop {options : List TextOption} {words : List CString}
    (spell : TextOption.Spell build options words) {word : CString} (plain : word ≠ lit "-c" ∧ word ≠ lit "-a")
    (rest : List CString) (channelIndex : UInt8) (wantAck : Bool) :
    textOptionLoop build (words ++ word :: rest) channelIndex wantAck =
      .ok (word :: rest, options.foldl TextOption.slot channelIndex, wantAck || options.contains .acknowledged) := by
  have apart : lit "-a" ≠ lit "-c" := by decide
  induction spell generalizing channelIndex wantAck with
  | nil =>
    rw [List.nil_append, textOptionLoop_plain plain]
    simp
  | @cons option words options more first later ih =>
    have behind : ∃ next tail, more ++ word :: rest = next :: tail := by
      cases more with
      | nil => exact ⟨word, rest, rfl⟩
      | cons next tail => exact ⟨next, tail ++ word :: rest, rfl⟩
    obtain ⟨next, tail, split⟩ := behind
    rw [List.append_assoc, split, textOptionLoop.eq_def]
    cases first with
    | channel read =>
      simp only [List.cons_append, List.nil_append, if_true, read]
      rw [← split, ih]
      simp [TextOption.slot]
    | acknowledged =>
      simp only [List.cons_append, List.nil_append, if_true, if_false, apart]
      rw [← split, ih]
      simp [TextOption.slot]

/-- Words that the loop gets through are options and what stands behind them. -/
theorem textOptionLoop_spell (length : Nat) {words rest : List CString} (short : words.length = length) (given : words ≠ [])
    {channelIndex channelIndex' : UInt8} {wantAck wantAck' : Bool}
    (read : textOptionLoop build words channelIndex wantAck = .ok (rest, channelIndex', wantAck')) :
    ∃ options front word tail, words = front ++ rest ∧ rest = word :: tail ∧ (word ≠ lit "-c" ∧ word ≠ lit "-a") ∧
      TextOption.Spell build options front := by
  induction length using Nat.strong_induction_on generalizing words channelIndex wantAck with
  | h length ih =>
    cases words with
    | nil => exact absurd rfl given
    | cons word words =>
      rw [textOptionLoop.eq_def] at read
      simp only at read
      split_ifs at read with isChannel isAck
      · cases words with
        | nil => cases read
        | cons number words =>
          cases words with
          | nil => cases read
          | cons next words =>
            simp only at read
            cases parsed : shellParseChannelIndex build.toStoreBuild number with
            | error line =>
              rw [parsed] at read
              cases read
            | ok index =>
              rw [parsed] at read
              obtain ⟨options, front, word', tail, split, behind, plain, spell⟩ :=
                ih _ (by simp only [List.length_cons] at short ⊢; omega) rfl (List.cons_ne_nil _ _) read
              rw [isChannel, split]
              exact ⟨_, [lit "-c", number] ++ front, word', tail, rfl, behind, plain, .cons (.channel parsed) spell⟩
      · cases words with
        | nil => cases read
        | cons next words =>
          simp only at read
          obtain ⟨options, front, word', tail, split, behind, plain, spell⟩ :=
            ih _ (by simp only [List.length_cons] at short ⊢; omega) rfl (List.cons_ne_nil _ _) read
          rw [isAck, split]
          exact ⟨_, [lit "-a"] ++ front, word', tail, rfl, behind, plain, .cons .acknowledged spell⟩
      · cases read
        exact ⟨[], [], word, words, rfl, rfl, ⟨isChannel, isAck⟩, .nil⟩

def textCode (build : ShellSendBuild) (queue : List ShellWorkItem) (message : List CString) : Option Errno :=
  if MAX_TEXT_LEN < (joined message).length then some .enomem
  else if joined message = [] then some .einval
  else if build.queueSize ≤ queue.length then some .enomsg
  else none

variable {queue : List ShellWorkItem} {argv : List CString} {options : List TextOption} {dest : UInt32}
  {message : List CString}

theorem queueText_eq (channelIndex : UInt8) (wantAck : Bool) :
    (queueText build queue channelIndex wantAck dest message).1.code = textCode build queue message ∧
    (queueText build queue channelIndex wantAck dest message).2 =
      if textCode build queue message = none then
        queue ++ [{ op := .sendText, dest := dest, channelIndex := channelIndex
                    wantAck := wantAck && dest != NODE_BROADCAST, payload := joined message }]
      else queue := by
  have asked : (wantAck && !(wantAck && dest == NODE_BROADCAST)) = (wantAck && dest != NODE_BROADCAST) := by
    cases wantAck <;> rfl
  unfold queueText textCode
  rw [appendMessageFromArgv_eq]
  by_cases long : MAX_TEXT_LEN < (joined message).length
  · rw [if_neg (Nat.not_le.mpr long), if_pos long, if_neg (Option.some_ne_none _)]
    exact ⟨rfl, rfl⟩
  · rw [if_pos (Nat.not_lt.mp long), if_neg long]
    cases text : joined message with
    | nil => exact ⟨rfl, rfl⟩
    | cons first rest =>
      rw [if_neg (List.cons_ne_nil first rest)]
      simp only [enqueueShellWork, asked]
      by_cases full : build.queueSize ≤ queue.length
      · simp only [if_pos full, reduceCtorEq, if_false, and_self]
      · simp only [if_neg full, if_true, and_self]

theorem cmdTextSend_asks (queue : List ShellWorkItem) (asks : TextAsks build argv options dest message) :
    (cmdTextSend build queue argv).1.code = textCode build queue message ∧
    (cmdTextSend build queue argv).2 =
      if textCode build queue message = none then queue ++ [textItem options dest message] else queue := by
  obtain ⟨command, words, rest, same, spell, addressed⟩ := asks
  have front : ∃ word tail, rest = word :: tail ∧ (word ≠ lit "-c" ∧ word ≠ lit "-a") := by
    cases addressed with
    | everyone plain => exact ⟨_, _, rfl, plain⟩
    | named plain read given => exact ⟨_, _, rfl, plain⟩
  obtain ⟨word, tail, behind, plain⟩ := front
  have read := spell.loop plain tail CHANNEL_INDEX_INVALID false
  rw [← behind, Bool.false_or] at read
  have some : ∃ first more, words ++ rest = first :: more := by
    rw [behind]
    cases words with
    | nil => exact ⟨word, tail, rfl⟩
    | cons first more => exact ⟨first, more ++ word :: tail, rfl⟩
  obtain ⟨first, more, split⟩ := some
  have queued : cmdTextSend build queue argv =
      queueText build queue (options.foldl TextOption.slot CHANNEL_INDEX_INVALID) (options.contains .acknowledged) dest
        message := by
    rw [same, split]
    rw [split] at read
    simp only [cmdTextSend, read]
    cases addressed with
    | everyone plain => rfl
    | named plain parsed given =>
      cases message with
      | nil => exact absurd rfl given
      | cons next message => simp only [parsed]
  rw [queued]
  exact queueText_eq _ _

theorem cmdTextSend_silent (queue : List ShellWorkItem)
    (silent : ∀ options dest message, ¬TextAsks build argv options dest message) :
    (cmdTextSend build queue argv).1.code = some .einval ∧ (cmdTextSend build queue argv).2 = queue := by
  unfold cmdTextSend
  split
  · next command word words =>
    cases read : textOptionLoop build (word :: words) CHANNEL_INDEX_INVALID false with
    | error line => exact ⟨rfl, rfl⟩
    | ok result =>
      obtain ⟨rest, channelIndex, wantAck⟩ := result
      obtain ⟨options, front, first, tail, split, behind, plain, spell⟩ :=
        textOptionLoop_spell _ rfl (List.cons_ne_nil _ _) read
      cases tail with
      | nil =>
        exact (silent options _ _ ⟨command, front, rest, by rw [split], spell, by rw [behind]; exact .everyone plain⟩).elim
      | cons next tail =>
        simp only [behind]
        cases parsed : parseU32 build.toStoreBuild first with
        | error line => exact ⟨rfl, rfl⟩
        | ok dest =>
          exact (silent options dest (next :: tail) ⟨command, front, rest, by rw [split], spell, by
            rw [behind]
            exact .named plain parsed (List.cons_ne_nil _ _)⟩).elim
  · exact ⟨rfl, rfl⟩

end

/-! ## The thread that does the work -/

section
variable {cfg : Kconfig} (build : ShellSendBuild)

/-- One turn of `shell_work_thread_fn`: `made` is the packet that a module builds for its operation, or its error. -/
def shellWork (codec : Codec) (answer : Answer) (made : Except Errno Packet) (node : Node cfg) (item : ShellWorkItem) :
    Option (Option Errno × Node cfg) :=
  match item.op with
  | .sendText =>
    if item.channelIndex ≠ CHANNEL_INDEX_INVALID ∨ item.wantAck = true then
      sendPacket codec answer node
        { to_ := item.dest, portnum := PORT_TEXT_MESSAGE, payload := item.payload, channelIndex := item.channelIndex
          wantAck := item.wantAck } .forever
    else sendText codec answer node item.dest (some (item.payload ++ [0]))
  | _ =>
    match made with
    | .error err => some (some err, node)
    | .ok packet => sendPacket codec answer node packet .forever

/-- The queue of the shell, its thread and the node; `accepted` and `done` are what was queued and what was done. -/
structure Shell (cfg : Kconfig) where
  node : Node cfg
  queue : List ShellWorkItem := []
  inHand : Option ShellWorkItem := none
  accepted : List ShellWorkItem := []
  done : List ShellWorkItem := []

inductive ShellMove (cfg : Kconfig) where
  | text (argv : List CString)
  | deferred (op : ShellWorkOp) (argv : List CString)
  | take
  | perform (answer : Answer) (made : Except Errno Packet)
  | other (request : Request cfg)

def Shell.queued (shell : Shell cfg) (queue : List ShellWorkItem) : Shell cfg :=
  { shell with queue := queue, accepted := shell.accepted ++ queue.drop shell.queue.length }

def Shell.step (codec : Codec) (board : Board) (shell : Shell cfg) : ShellMove cfg → Option (Shell cfg)
  | .text argv => some (shell.queued (cmdTextSend build shell.queue argv).2)
  | .deferred op argv =>
    if op = .sendText then none else some (shell.queued (cmdDeferredSend build op shell.queue argv).2)
  | .take =>
    match shell.queue, shell.inHand with
    | item :: rest, none => some { shell with queue := rest, inHand := some item }
    | _, _ => none
  | .perform answer made =>
    match shell.inHand with
    | none => none
    | some item =>
      (shellWork codec answer made shell.node item).map fun result =>
        { shell with node := result.2, inHand := none, done := shell.done ++ [item] }
  | .other request => (shell.node.step codec board request).map fun node => { shell with node := node }

end

section
variable {cfg : Kconfig} {build : ShellSendBuild} {codec : Codec} {board : Board}

structure ShellWorkItem.Text (item : ShellWorkItem) : Prop where
  op : item.op = .sendText
  some : item.payload ≠ []
  short : item.payload.length ≤ MAX_TEXT_LEN
  noNul : (0 : UInt8) ∉ item.payload

def ShellWorkItem.packet (item : ShellWorkItem) : Packet :=
  { to_ := item.dest, portnum := PORT_TEXT_MESSAGE, payload := item.payload
    channelIndex := if item.channelIndex ≠ CHANNEL_INDEX_INVALID ∨ item.wantAck = true then item.channelIndex else 0
    wantAck := item.wantAck }

theorem joined_noNul (message : List CString) : (0 : UInt8) ∉ joined message := by
  cases message with
  | nil => exact List.not_mem_nil
  | cons arg rest =>
    intro present
    rcases List.mem_append.mp present with first | later
    · exact arg.noNul first
    · obtain ⟨other, -, inside⟩ := List.mem_flatMap.mp later
      rcases List.mem_cons.mp inside with space | letter
      · exact absurd space (by decide)
      · exact other.noNul letter

theorem textItem_text {options : List TextOption} {dest : UInt32} {message : List CString} {queue : List ShellWorkItem}
    (accepted : textCode build queue message = none) : (textItem options dest message).Text := by
  unfold textCode at accepted
  split_ifs at accepted with long empty full
  exact ⟨rfl, empty, Nat.not_lt.mp long, joined_noNul message⟩

/-! ## Runs -/

/-- What holds in every state of a run. -/
structure Shell.Kept (build : ShellSendBuild) (shell : Shell cfg) : Prop where
  order : shell.accepted = shell.done ++ shell.inHand.toList ++ shell.queue
  room : shell.queue.length ≤ build.queueSize
  texts : ∀ item ∈ shell.accepted, item.op = .sendText → item.Text

theorem cmdTextSend_grows (build : ShellSendBuild) (queue : List ShellWorkItem) (argv : List CString) :
    (cmdTextSend build queue argv).2 = queue ∨
    ∃ options dest message, TextAsks build argv options dest message ∧ textCode build queue message = none ∧
      (cmdTextSend build queue argv).2 = queue ++ [textItem options dest message] := by
  by_cases asked : ∃ options dest message, TextAsks build argv options dest message
  · obtain ⟨options, dest, message, asks⟩ := asked
    have queued := (cmdTextSend_asks queue asks).2
    by_cases accepted : textCode build queue message = none
    · rw [if_pos accepted] at queued
      exact .inr ⟨options, dest, message, asks, accepted, queued⟩
    · rw [if_neg accepted] at queued
      exact .inl queued
  · exact .inl (cmdTextSend_silent queue fun options dest message asks => asked ⟨options, dest, message, asks⟩).2

theorem cmdDeferredSend_grows (build : ShellSendBuild) (op : ShellWorkOp) (queue : List ShellWorkItem)
    (argv : List CString) :
    (cmdDeferredSend build op queue argv).2 = queue ∨
    ∃ dest, queue.length < build.queueSize ∧
      (cmdDeferredSend build op queue argv).2 = queue ++ [{ op := op, dest := dest }] := by
  unfold cmdDeferredSend
  cases parseOptionalDest build argv with
  | error line => exact .inl rfl
  | ok dest =>
    simp only [enqueueShellWork]
    split_ifs with full
    · exact .inl rfl
    · exact .inr ⟨dest, Nat.not_le.mp full, rfl⟩

theorem textCode_room {queue : List ShellWorkItem} {message : List CString}
    (accepted : textCode build queue message = none) : queue.length < build.queueSize := by
  unfold textCode at accepted
  split_ifs at accepted with long empty full
  exact Nat.not_le.mp full

theorem Shell.queued_same (shell : Shell cfg) : shell.queued shell.queue = shell := by
  rw [queued, List.drop_length, List.append_nil]

theorem Shell.Kept.queued {shell : Shell cfg} {item : ShellWorkItem} (kept : shell.Kept build)
    (room : shell.queue.length < build.queueSize) (text : item.op = .sendText → item.Text) :
    (shell.queued (shell.queue ++ [item])).Kept build ∧
      (shell.queued (shell.queue ++ [item])).accepted = shell.accepted ++ [item] := by
  have accepted : (shell.queued (shell.queue ++ [item])).accepted = shell.accepted ++ [item] := by
    rw [Shell.queued, List.drop_left]
  refine ⟨⟨?_, ?_, ?_⟩, accepted⟩
  · rw [accepted, kept.order]
    simp only [Shell.queued, List.append_assoc]
  · simp only [Shell.queued, List.length_append, List.length_singleton]
    omega
  · rw [accepted]
    intro other member isText
    rcases List.mem_append.mp member with before | new
    · exact kept.texts other before isText
    · rw [List.mem_singleton.mp new] at isText ⊢
      exact text isText

theorem Shell.Kept.step {shell next : Shell cfg} {move : ShellMove cfg} (kept : shell.Kept build)
    (taken : shell.step build codec board move = some next) :
    next.Kept build ∧ ∀ item ∈ next.accepted, item ∈ shell.accepted ∨ (item.op = .sendText →
      ∃ argv options dest message, move = .text argv ∧ TextAsks build argv options dest message ∧
        item = textItem options dest message) := by
  cases move with
  | text argv =>
    cases taken
    rcases cmdTextSend_grows build shell.queue argv with same | ⟨options, dest, message, asks, accepted, grown⟩
    · rw [same, Shell.queued_same]
      exact ⟨kept, fun item member => .inl member⟩
    · rw [grown]
      obtain ⟨after, added⟩ := kept.queued (textCode_room accepted)
        (fun _ => @textItem_text build options dest message _ accepted)
      refine ⟨after, ?_⟩
      rw [added]
      intro item member
      rcases List.mem_append.mp member with before | new
      · exact .inl before
      · exact .inr fun _ => ⟨argv, options, dest, message, rfl, asks, List.mem_singleton.mp new⟩
  | deferred op argv =>
    simp only [Shell.step] at taken
    split_ifs at taken with isText
    cases taken
    rcases cmdDeferredSend_grows build op shell.queue argv with same | ⟨dest, room, grown⟩
    · rw [same, Shell.queued_same]
      exact ⟨kept, fun item member => .inl member⟩
    · rw [grown]
      obtain ⟨after, added⟩ := @Shell.Kept.queued cfg build shell { op := op, dest := dest } kept room
        fun text => absurd text isText
      refine ⟨after, ?_⟩
      rw [added]
      intro item member
      rcases List.mem_append.mp member with before | new
      · exact .inl before
      · exact .inr fun text => absurd text (by rw [List.mem_singleton.mp new]; exact isText)
  | take =>
    simp only [Shell.step] at taken
    split at taken
    · next item rest waiting free =>
      cases taken
      refine ⟨⟨?_, ?_, kept.texts⟩, fun item member => .inl member⟩
      · rw [kept.order, waiting, free]
        simp
      · have room := kept.room
        rw [waiting, List.length_cons] at room
        exact Nat.le_of_succ_le room
    · cases taken
  | perform answer made =>
    simp only [Shell.step] at taken
    cases held : shell.inHand with
    | none =>
      rw [held] at taken
      cases taken
    | some item =>
      rw [held] at taken
      obtain ⟨result, -, same⟩ := Option.map_eq_some_iff.mp taken
      cases same
      refine ⟨⟨?_, kept.room, kept.texts⟩, fun item member => .inl member⟩
      rw [kept.order, held]
      simp
  | other request =>
    obtain ⟨node, -, same⟩ := Option.map_eq_some_iff.mp taken
    cases same
    exact ⟨⟨kept.order, kept.room, kept.texts⟩, fun item member => .inl member⟩

end

end Meshtastic
