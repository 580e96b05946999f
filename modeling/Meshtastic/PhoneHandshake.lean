import Meshtastic.PhoneQueue

/-! The configuration handshake over a whole session. Every section is made once and in order, and is
then either with the client, or alone in the front of the ring where a transport put it back. The
only way to lose one is a live frame that arrives when the ring is full behind it. -/

namespace Meshtastic
open Bytes

/-! ## Sections -/

/-- What a frame of the handshake is about. -/
inductive ConfigSection where
  | myInfo
  | deviceUi
  | nodeInfo
  | metadata
  | channel (index : Int)
  | config (tag : ConfigTag)
  | module (tag : ModuleTag)
  | queueStatus
  | complete (nonce : UInt32)
  | other
  deriving DecidableEq

def Config.section_ : Config → ConfigSection
  | .device _ => .config .device
  | .position => .config .position
  | .power => .config .power
  | .network => .config .network
  | .display => .config .display
  | .lora _ => .config .lora
  | .bluetooth _ => .config .bluetooth
  | .security => .config .security
  | .sessionkey => .config .sessionkey
  | .deviceUi => .config .deviceUi
  | .unknown _ => .other

def FromRadioPayload.section_ : FromRadioPayload → ConfigSection
  | .myInfo _ => .myInfo
  | .deviceuiConfig _ => .deviceUi
  | .nodeInfo _ _ => .nodeInfo
  | .metadata _ => .metadata
  | .channel slot => .channel slot.index
  | .config part => part.section_
  | .moduleConfig tag => .module tag
  | .queueStatus _ => .queueStatus
  | .configCompleteId nonce => .complete nonce
  | _ => .other

/-- The sections among some frames: those of the frames that the handshake made. -/
def sections (frames : List ApiFrame) : List ConfigSection :=
  (frames.filterMap ApiFrame.generated).map FromRadioPayload.section_

@[simp] theorem sections_nil : sections [] = [] := rfl

@[simp] theorem sections_append (first second : List ApiFrame) :
    sections (first ++ second) = sections first ++ sections second := by
  simp only [sections, List.filterMap_append, List.map_append]

theorem sections_cons (frame : ApiFrame) (rest : List ApiFrame) :
    sections (frame :: rest) = sections [frame] ++ sections rest :=
  sections_append [frame] rest

theorem sections_live {frame : ApiFrame} (live : frame.generated = none) : sections [frame] = [] := by
  simp [sections, live]

def handshake (nonce : UInt32) : List ConfigSection :=
  [.myInfo, .deviceUi, .nodeInfo, .metadata] ++ (List.range MAX_CHANNELS).map (fun index => .channel index) ++
    configTags.map .config ++ moduleTags.map .module ++ [.queueStatus, .complete nonce]

/-! ## The sections still to come -/

namespace ConfigCursor

def closing (requestId : UInt32) : List ConfigSection := [.queueStatus, .complete requestId]

def modulesFrom (requestId : UInt32) (index : Nat) : List ConfigSection :=
  (moduleTags.drop index).map .module ++ closing requestId

def configsFrom (requestId : UInt32) (index : Nat) : List ConfigSection :=
  (configTags.drop index).map .config ++ modulesFrom requestId 0

def channelsFrom (requestId : UInt32) (index : Nat) : List ConfigSection :=
  ((List.range MAX_CHANNELS).drop index).map (fun index => .channel index) ++ configsFrom requestId 0

def remaining (cursor : ConfigCursor) : List ConfigSection :=
  match cursor.state with
  | .idle => []
  | .myInfo => .myInfo :: .deviceUi :: .nodeInfo :: .metadata :: channelsFrom cursor.requestId 0
  | .deviceUi => .deviceUi :: .nodeInfo :: .metadata :: channelsFrom cursor.requestId 0
  | .nodeInfo => .nodeInfo :: .metadata :: channelsFrom cursor.requestId 0
  | .metadata => .metadata :: channelsFrom cursor.requestId 0
  | .channels => channelsFrom cursor.requestId cursor.index.toNat
  | .configs => configsFrom cursor.requestId cursor.index.toNat
  | .modules => modulesFrom cursor.requestId cursor.index.toNat
  | .queueStatus => closing cursor.requestId
  | .complete => [.complete cursor.requestId]

def Valid (cursor : ConfigCursor) : Prop := cursor.state = .channels → cursor.index.toNat < MAX_CHANNELS

theorem remaining_start (nonce : UInt32) :
    remaining { state := .myInfo, index := 0, requestId := nonce } = handshake nonce :=
  rfl

end ConfigCursor

section
variable {encode : FromRadio → Option Octets}

def Encodes (encode : FromRadio → Option Octets) : Prop :=
  ∀ message, ∃ data, encode message = some data ∧ data.length ≤ API_FRAME_MAX

theorem encodeFromradioFrame_ok (encodes : Encodes encode) (message : FromRadio) :
    ∃ frame, encodeFromradioFrame encode message = .ok frame ∧ frame.generated = none := by
  obtain ⟨data, encoded, fits⟩ := encodes message
  refine ⟨⟨data, none, fits⟩, ?_, rfl⟩
  simp only [encodeFromradioFrame, encoded, fits, dite_true]

/-- A frame comes out, and the section it is about was the next one to come. -/
structure Generates (result : Except Errno ApiFrame × ConfigCursor) (before : List ConfigSection) : Prop where
  made : ∃ frame, result.1 = .ok frame ∧ sections [frame] ++ result.2.remaining = before
  valid : result.2.Valid

/-- The frame of the section that was due is made, or the step fails and leaves all sections to come. -/
structure Advances (encode : FromRadio → Option Octets) (result : Except Errno ApiFrame × ConfigCursor)
    (before : List ConfigSection) : Prop where
  made : ∀ frame, result.1 = .ok frame → ∃ message : FromRadio, encode message = some frame.data ∧
    frame.generated = some message.payload ∧ message.payload.section_ :: result.2.remaining = before
  kept : ∀ err, result.1 = .error err → result.2.remaining = before
  total : Encodes encode → ∃ frame, result.1 = .ok frame
  valid : result.2.Valid

theorem Advances.generates {result : Except Errno ApiFrame × ConfigCursor} {before : List ConfigSection}
    (advances : Advances encode result before) (encodes : Encodes encode) : Generates result before := by
  obtain ⟨frame, made⟩ := advances.total encodes
  obtain ⟨message, -, generated, next⟩ := advances.made frame made
  refine ⟨⟨frame, made, ?_⟩, advances.valid⟩
  rw [← next]
  simp [sections, generated]

theorem encodeFromradioFrame_eq_ok {message : FromRadio} {frame : ApiFrame}
    (made : encodeFromradioFrame encode message = .ok frame) : encode message = some frame.data := by
  unfold encodeFromradioFrame at made
  split at made
  · cases made
  · rename_i data encoded
    split_ifs at made
    cases made
    exact encoded

theorem emitFrame_advances {cursor : ConfigCursor} {message : FromRadio} {state : PhoneConfigState} {index : UInt8}
    {before : List ConfigSection} (here : cursor.remaining = before)
    (next : message.payload.section_ :: ConfigCursor.remaining { cursor with state := state, index := index } = before)
    (validHere : cursor.Valid) (valid : ConfigCursor.Valid { cursor with state := state, index := index }) :
    Advances encode (emitFrame encode cursor message state index) before := by
  cases encoded : encodeFromradioFrame encode message with
  | error err =>
    have result : emitFrame encode cursor message state index = (.error err, cursor) := by
      simp only [emitFrame, encoded]
    rw [result]
    refine ⟨fun frame made => (nomatch made), fun _ _ => here, fun encodes => ?_, validHere⟩
    obtain ⟨frame, made, -⟩ := encodeFromradioFrame_ok encodes message
    rw [made] at encoded
    cases encoded
  | ok frame =>
    have result : emitFrame encode cursor message state index =
        (.ok { frame with generated := some message.payload }, { cursor with state := state, index := index }) := by
      simp only [emitFrame, encoded]
    rw [result]
    refine ⟨?_, fun err failed => (nomatch failed), fun _ => ⟨_, rfl⟩, valid⟩
    intro other made
    cases made
    have written : encode message = some frame.data := encodeFromradioFrame_eq_ok encoded
    exact ⟨message, written, rfl, next⟩

/-! ## The next frame -/

theorem fillConfigVariant_ok (sources : PhoneSources) (tag : ConfigTag) :
    ∃ message, fillConfigVariant sources tag = .ok message ∧ message.payload.section_ = .config tag := by
  refine ⟨{ id := sources.fromradioId, payload := .config (sources.store.configs tag) }, ?_, ?_⟩
  · have known : tag ∈ configNames := by cases tag <;> decide
    simp only [fillConfigVariant, configStoreGetConfig, if_pos known]
    rfl
  · cases tag <;> rfl

theorem fillModuleVariant_ok (sources : PhoneSources) (tag : ModuleTag) :
    ∃ message, fillModuleVariant sources tag = .ok message ∧ message.payload.section_ = .module tag := by
  refine ⟨{ id := sources.fromradioId, payload := .moduleConfig tag }, ?_, rfl⟩
  have known : tag ∈ moduleNames := by cases tag <;> decide
  simp only [fillModuleVariant, configStoreGetModule, if_pos known]
  rfl

theorem fillChannel_section (sources : PhoneSources) (index : Nat) :
    (fillChannel sources index).payload.section_ = .channel index := by
  simp only [fillChannel, FromRadioPayload.section_]
  split
  · split <;> rfl
  · rfl

theorem firstSection_cons {Tag : Type} {fill : Tag → Except Errno FromRadio} {tag : Tag} {message : FromRadio}
    (filled : fill tag = .ok message) (rest : List Tag) (index : UInt8) :
    firstSection fill (tag :: rest) index = some (message, index) := by
  simp only [firstSection, filled]

theorem index_succ {index : UInt8} {bound : Nat} (inside : index.toNat + 1 < bound) (small : bound ≤ 256) :
    (index + 1).toNat = index.toNat + 1 := by
  rw [UInt8.toNat_add, UInt8.toNat_one]
  apply Nat.mod_eq_of_lt
  omega

theorem queueStatusFrame_advances (sources : PhoneSources) (queueSize count : UInt8) {cursor : ConfigCursor}
    (here : cursor.state = .queueStatus) :
    Advances encode (queueStatusFrame encode sources queueSize count cursor)
      (ConfigCursor.closing cursor.requestId) := by
  apply emitFrame_advances
  · simp only [ConfigCursor.remaining, here]
  · rfl
  · intro channels
    rw [here] at channels
    cases channels
  · exact fun channels => nomatch channels

theorem sectionFrame_advances {Tag : Type} {fill : Tag → Except Errno FromRadio} {tags : List Tag}
    {here next : PhoneConfigState} {goOn : ConfigCursor → Except Errno ApiFrame × ConfigCursor}
    {about : Tag → ConfigSection} {later : List ConfigSection} {cursor : ConfigCursor}
    (fillable : ∀ tag, ∃ message, fill tag = .ok message ∧ message.payload.section_ = about tag)
    (few : tags.length ≤ 256) (hereElse : here ≠ .channels) (nextElse : next ≠ .channels) (at_ : cursor.state = here)
    (atHere : ∀ index, ConfigCursor.remaining { cursor with state := here, index := index } =
      (tags.drop index.toNat).map about ++ later)
    (atNext : ConfigCursor.remaining { cursor with state := next, index := 0 } = later)
    (goesOn : Advances encode (goOn { cursor with state := next, index := 0 }) later) :
    Advances encode (sectionFrame encode fill tags here next goOn cursor)
      ((tags.drop cursor.index.toNat).map about ++ later) := by
  by_cases inside : cursor.index.toNat < tags.length
  · obtain ⟨message, filled, named⟩ := fillable tags[cursor.index.toNat]
    have stays : cursor.remaining = (tags.drop cursor.index.toNat).map about ++ later := by
      rw [← atHere, ← at_]
    have validHere : cursor.Valid := by
      intro channels
      exact absurd (at_.symm.trans channels) hereElse
    rw [List.drop_eq_getElem_cons inside] at stays ⊢
    simp only [sectionFrame, List.drop_eq_getElem_cons inside, firstSection_cons filled]
    by_cases final : cursor.index.toNat + 1 ≥ tags.length
    · simp only [sectionAfter, if_pos final]
      apply emitFrame_advances stays
      · rw [named, atNext, List.drop_eq_nil_of_le final]
        rfl
      · exact validHere
      · exact fun channels => absurd channels nextElse
    · simp only [sectionAfter, if_neg final]
      apply emitFrame_advances stays
      · rw [named, atHere, index_succ (Nat.lt_of_not_le final) few]
        rfl
      · exact validHere
      · exact fun channels => absurd channels hereElse
  · simp only [sectionFrame, List.drop_eq_nil_of_le (Nat.le_of_not_lt inside), firstSection]
    exact goesOn

theorem modulesFrame_advances (sources : PhoneSources) (queueSize count : UInt8) {cursor : ConfigCursor}
    (here : cursor.state = .modules) :
    Advances encode (modulesFrame encode sources queueSize count cursor)
      (ConfigCursor.modulesFrom cursor.requestId cursor.index.toNat) := by
  apply sectionFrame_advances (fillModuleVariant_ok sources)
  · decide
  · decide
  · decide
  · exact here
  · exact fun index => rfl
  · rfl
  · exact queueStatusFrame_advances sources queueSize count rfl

theorem configsFrame_advances (sources : PhoneSources) (queueSize count : UInt8) {cursor : ConfigCursor}
    (here : cursor.state = .configs) :
    Advances encode (configsFrame encode sources queueSize count cursor)
      (ConfigCursor.configsFrom cursor.requestId cursor.index.toNat) := by
  apply sectionFrame_advances (fillConfigVariant_ok sources)
  · decide
  · decide
  · decide
  · exact here
  · exact fun index => rfl
  · rfl
  · exact modulesFrame_advances sources queueSize count rfl

theorem channelFrame_advances (sources : PhoneSources) {cursor : ConfigCursor} (here : cursor.state = .channels)
    (inside : cursor.index.toNat < MAX_CHANNELS) :
    let after := sectionAfter .channels .configs MAX_CHANNELS cursor.index
    Advances encode (emitFrame encode cursor (fillChannel sources cursor.index.toNat) after.1 after.2)
      (ConfigCursor.channelsFrom cursor.requestId cursor.index.toNat) := by
  intro after
  have listed : cursor.index.toNat < (List.range MAX_CHANNELS).length := by rwa [List.length_range]
  have stays : cursor.remaining = ConfigCursor.channelsFrom cursor.requestId cursor.index.toNat := by
    simp only [ConfigCursor.remaining, here]
  have split_off : ConfigCursor.channelsFrom cursor.requestId cursor.index.toNat =
      .channel cursor.index.toNat :: ConfigCursor.channelsFrom cursor.requestId (cursor.index.toNat + 1) := by
    simp only [ConfigCursor.channelsFrom, List.drop_eq_getElem_cons listed, List.getElem_range, List.map_cons,
      List.cons_append]
  rw [split_off] at stays ⊢
  by_cases final : cursor.index.toNat + 1 ≥ MAX_CHANNELS
  · have next : after = (.configs, 0) := if_pos final
    rw [next]
    apply emitFrame_advances stays
    · have done : (List.range MAX_CHANNELS).drop (cursor.index.toNat + 1) = [] :=
        List.drop_eq_nil_of_le (by rwa [List.length_range])
      rw [fillChannel_section, ConfigCursor.channelsFrom, done]
      rfl
    · exact fun _ => inside
    · exact fun channels => nomatch channels
  · have next : after = (.channels, cursor.index + 1) := if_neg final
    have moved := index_succ (Nat.lt_of_not_le final) (by decide)
    rw [next]
    apply emitFrame_advances stays
    · simp only [ConfigCursor.remaining, fillChannel_section, moved]
    · exact fun _ => inside
    · intro _
      simp only [moved]
      omega

theorem nextConfigFrame_advances (sources : PhoneSources) (queueSize count : UInt8) {cursor : ConfigCursor}
    (active : cursor.state ≠ .idle) (valid : cursor.Valid) :
    Advances encode (nextConfigFrame encode sources queueSize count cursor) cursor.remaining := by
  cases here : cursor.state with
  | idle => exact absurd here active
  | channels =>
    simp only [nextConfigFrame, ConfigCursor.remaining, here]
    exact channelFrame_advances sources here (valid here)
  | configs =>
    simp only [nextConfigFrame, ConfigCursor.remaining, here]
    exact configsFrame_advances sources queueSize count here
  | modules =>
    simp only [nextConfigFrame, ConfigCursor.remaining, here]
    exact modulesFrame_advances sources queueSize count here
  | queueStatus =>
    simp only [nextConfigFrame, ConfigCursor.remaining, here]
    exact queueStatusFrame_advances sources queueSize count here
  | metadata =>
    simp only [nextConfigFrame, here]
    apply emitFrame_advances rfl
    · simp only [ConfigCursor.remaining, here]
      rfl
    · exact valid
    · exact fun _ => (by decide : (0 : UInt8).toNat < MAX_CHANNELS)
  | myInfo | deviceUi | nodeInfo | complete =>
    simp only [nextConfigFrame, here]
    apply emitFrame_advances rfl
    · simp only [ConfigCursor.remaining, here]
      rfl
    · exact valid
    · intro channels
      cases channels

theorem nextConfigFrame_generates (encodes : Encodes encode) (sources : PhoneSources) (queueSize count : UInt8)
    {cursor : ConfigCursor} (active : cursor.state ≠ .idle) (valid : cursor.Valid) :
    Generates (nextConfigFrame encode sources queueSize count cursor) cursor.remaining :=
  (nextConfigFrame_advances sources queueSize count active valid).generates encodes

/-! ## A session -/

/-- A transport's phone API and what its client has been given. `popped` is the last frame taken, as
long as the transport may still put it back. -/
structure PhoneSession where
  api : PhoneApi
  given : List ApiFrame := []
  popped : Option ApiFrame := none

inductive PhoneMove where
  | live (message : FromRadio)
  | pop (sources : PhoneSources)
  | pushBack
  | current (sources : PhoneSources)
  | release

namespace PhoneSession

def finallyGiven (s : PhoneSession) : List ApiFrame := s.given ++ s.popped.toList

/-- `pushBack` is the push to the front that `tx_work_handler` makes when its ring is full; it needs
a frame that was just popped. -/
def step (encode : FromRadio → Option Octets) (s : PhoneSession) : PhoneMove → Option PhoneSession
  | .live message => some { s with api := (s.api.enqueueFromradio encode message).1 }
  | .pop sources =>
    match s.api.popFrame encode sources with
    | (api, none) => some { s with api := api }
    | (api, some frame) => some { api := api, given := s.finallyGiven, popped := some frame }
  | .pushBack =>
    match s.popped with
    | none => none
    | some frame => some { s with api := s.api.pushFrameFront frame, popped := none }
  | .current sources =>
    match s.api.currentValid, s.api.currentFrame encode sources with
    | true, (api, _) => some { s with api := api }
    | false, (api, none) => some { s with api := api }
    | false, (api, some frame) => some { api := api, given := s.finallyGiven ++ [frame], popped := none }
  | .release => some { s with api := s.api.releaseCurrentFrame }

/-- The move does not push a section of the handshake out of a full ring. -/
def Spares (s : PhoneSession) : PhoneMove → Prop
  | .live _ => s.api.count = s.api.queueSize → (s.api.queue s.api.tail.toNat).generated = none
  | _ => True

instance (s : PhoneSession) : (move : PhoneMove) → Decidable (s.Spares move)
  | .live _ => inferInstanceAs (Decidable (s.api.count = s.api.queueSize →
      (s.api.queue s.api.tail.toNat).generated = none))
  | .pop _ => isTrue trivial
  | .pushBack => isTrue trivial
  | .current _ => isTrue trivial
  | .release => isTrue trivial

/-- Sections given, in the ring and still to come make up the handshake. In the ring there is at most
one, in front, and none while a frame may be put back. -/
structure Orderly (nonce : UInt32) (s : PhoneSession) : Prop where
  shape : s.api.Wellformed
  valid : s.api.cursor.Valid
  account : sections s.finallyGiven ++ (sections s.api.view.queued ++ s.api.cursor.remaining) = handshake nonce
  front : ∀ frame ∈ s.api.view.queued.tail, frame.generated = none
  alone : s.popped ≠ none → ∀ frame ∈ s.api.view.queued, frame.generated = none

end PhoneSession

theorem sections_eq_nil {frames : List ApiFrame} (live : ∀ frame ∈ frames, frame.generated = none) :
    sections frames = [] := by
  simp only [sections, List.map_eq_nil_iff, List.filterMap_eq_nil_iff]
  exact live

theorem PhoneQueue.takeNext_sections (encodes : Encodes encode) (size : UInt8) (sources : PhoneSources)
    {q : PhoneQueue} (valid : q.cursor.Valid) (front : ∀ frame ∈ q.queued.tail, frame.generated = none) :
    let taken := q.takeNext encode size sources
    sections taken.2.toList ++ taken.1.cursor.remaining = sections q.queued ++ q.cursor.remaining ∧
      taken.1.cursor.Valid ∧ ∀ frame ∈ taken.1.queued, frame.generated = none := by
  intro taken
  cases listed : q.queued with
  | cons oldest rest =>
    have result : taken = ({ q with queued := rest }, some oldest) := by
      simp only [taken, PhoneQueue.takeNext, listed]
    rw [listed, List.tail_cons] at front
    rw [result]
    refine ⟨?_, valid, front⟩
    rw [sections_cons oldest rest, sections_eq_nil front, List.append_nil]
    rfl
  | nil =>
    by_cases idle : q.cursor.state = .idle
    · have result : taken = (q, none) := by
        simp only [taken, PhoneQueue.takeNext, listed, PhoneApi.nextConfigFrame_idle encode sources size 0 idle]
        exact Prod.ext (PhoneQueue.ext listed.symm rfl rfl) rfl
      rw [result]
      refine ⟨rfl, valid, ?_⟩
      rw [listed]
      exact fun frame member => absurd member List.not_mem_nil
    · obtain ⟨⟨frame, made, next⟩, validNext⟩ := nextConfigFrame_generates encodes sources size 0 idle valid
      generalize outcome : nextConfigFrame encode sources size 0 q.cursor = pair at made next validNext
      obtain ⟨answer, cursor⟩ := pair
      have isFrame : answer = .ok frame := made
      have result : taken = ({ q with queued := [], cursor := cursor }, some frame) := by
        simp only [taken, PhoneQueue.takeNext, listed, outcome, isFrame]
      rw [result]
      exact ⟨next, validNext, fun other member => absurd member List.not_mem_nil⟩

namespace PhoneSession

variable {nonce : UInt32} {s : PhoneSession}

/-- Making room for a live frame costs no section: what is left in front of it has the same ones. -/
theorem Orderly.makeRoom (orderly : s.Orderly nonce) {message : FromRadio} (spares : s.Spares (.live message))
    (frame : ApiFrame) :
    ∃ before, Deque.pushNewest s.api.queueSize.toNat s.api.view.queued frame = before ++ [frame] ∧
      sections before = sections s.api.view.queued ∧ (∀ other ∈ before.tail, other.generated = none) ∧
      ∀ other ∈ before, other ∈ s.api.view.queued := by
  by_cases full : s.api.count = s.api.queueSize
  · obtain ⟨-, -, oldest⟩ := PhoneApi.withoutOldest_wellformed orderly.shape (orderly.shape.nonempty_of_full full)
    have plainOldest := spares full
    refine ⟨s.api.view.queued.tail, ?_, ?_, ?_, ?_⟩
    · rw [Deque.pushNewest, if_pos ((PhoneApi.full_iff _).mp full)]
    · cases listed : s.api.view.queued with
      | nil => rfl
      | cons first rest =>
        rw [listed, List.head?_cons, Option.some.injEq] at oldest
        rw [← oldest] at plainOldest
        rw [List.tail_cons, sections_cons first rest, sections_live plainOldest, List.nil_append]
    · intro other member
      exact orderly.front other (List.mem_of_mem_tail member)
    · exact fun other member => List.mem_of_mem_tail member
  · refine ⟨s.api.view.queued, ?_, rfl, orderly.front, fun other member => member⟩
    rw [Deque.pushNewest, if_neg (fun long => full ((PhoneApi.full_iff _).mpr long))]

theorem Orderly.live (orderly : s.Orderly nonce) {message : FromRadio} (spares : s.Spares (.live message))
    (encodes : Encodes encode) : Orderly nonce { s with api := (s.api.enqueueFromradio encode message).1 } := by
  obtain ⟨frame, encoded, plain⟩ := encodeFromradioFrame_ok encodes message
  obtain ⟨shape, same⟩ := PhoneApi.enqueue_simulates orderly.shape frame
  have result : (s.api.enqueueFromradio encode message).1 =
      (if s.api.count = s.api.queueSize then s.api.withoutOldest else s.api).withNewest frame := by
    simp only [PhoneApi.enqueueFromradio, encoded]
    rfl
  rw [← result] at shape same
  have queued := congrArg PhoneQueue.queued same
  have cursor : (s.api.enqueueFromradio encode message).1.cursor = s.api.cursor := congrArg PhoneQueue.cursor same
  obtain ⟨before, pushed, sameSections, front, subset⟩ := orderly.makeRoom spares frame
  rw [pushed] at queued
  refine ⟨shape, ?_, ?_, ?_, ?_⟩
  · rw [cursor]
    exact orderly.valid
  · rw [queued, cursor, sections_append, sameSections, sections_live plain, List.append_nil]
    exact orderly.account
  · rw [queued]
    intro other member
    cases before with
    | nil => cases member
    | cons first rest =>
      rcases List.mem_append.mp member with old | new
      · exact front other old
      · rw [List.mem_singleton.mp new]
        exact plain
  · intro popped other member
    rw [queued] at member
    rcases List.mem_append.mp member with old | new
    · exact orderly.alone popped other (subset other old)
    · rw [List.mem_singleton.mp new]
      exact plain

theorem Orderly.pushBack (orderly : s.Orderly nonce) {frame : ApiFrame} (popped : s.popped = some frame) :
    Orderly nonce { s with api := s.api.pushFrameFront frame, popped := none } := by
  obtain ⟨shape, same⟩ := PhoneApi.pushFrameFront_simulates orderly.shape frame
  have queued := congrArg PhoneQueue.queued same
  have cursor : (s.api.pushFrameFront frame).cursor = s.api.cursor := congrArg PhoneQueue.cursor same
  have alone := orderly.alone (by rw [popped]; exact Option.some_ne_none frame)
  obtain ⟨rest, pushed, live⟩ : ∃ rest, Deque.pushOldest s.api.queueSize.toNat s.api.view.queued frame =
      frame :: rest ∧ ∀ other ∈ rest, other.generated = none := by
    refine ⟨_, rfl, ?_⟩
    intro other member
    split at member
    · exact alone other (List.mem_of_mem_dropLast member)
    · exact alone other member
  rw [pushed] at queued
  refine ⟨shape, ?_, ?_, ?_, fun none => absurd rfl none⟩
  · rw [cursor]
    exact orderly.valid
  · have account := orderly.account
    rw [finallyGiven, popped, sections_append, sections_eq_nil alone] at account
    rw [queued, cursor, sections_cons frame rest, sections_eq_nil live, finallyGiven, sections_append]
    simpa using account
  · rw [queued]
    exact live

/-- What `pop_frame` and a fresh `current_frame` do: the frame they take, if any, leaves no section in
the ring. -/
theorem Orderly.taken (orderly : s.Orderly nonce) (encodes : Encodes encode) (sources : PhoneSources) :
    let taken := s.api.popFrame encode sources
    taken.1.Wellformed ∧ taken.1.cursor.Valid ∧ (∀ frame ∈ taken.1.view.queued, frame.generated = none) ∧
      sections s.finallyGiven ++ (sections taken.2.toList ++ taken.1.cursor.remaining) = handshake nonce := by
  intro taken
  obtain ⟨shape, same⟩ := PhoneApi.popFrame_simulates encode orderly.shape sources
  obtain ⟨moved, valid, live⟩ := PhoneQueue.takeNext_sections encodes s.api.queueSize sources
    (q := s.api.view) orderly.valid orderly.front
  rw [same] at moved valid live
  refine ⟨shape, valid, live, ?_⟩
  rw [show sections taken.2.toList ++ taken.1.cursor.remaining =
    sections s.api.view.queued ++ s.api.cursor.remaining from moved]
  exact orderly.account

theorem Orderly.pop (orderly : s.Orderly nonce) (encodes : Encodes encode) {sources : PhoneSources}
    {next : PhoneSession} (moved : s.step encode (.pop sources) = some next) : next.Orderly nonce := by
  obtain ⟨shape, valid, live, account⟩ := orderly.taken encodes sources
  generalize outcome : s.api.popFrame encode sources = pair at shape valid live account
  obtain ⟨api, frame⟩ := pair
  simp only [step, outcome] at moved
  cases frame with
  | none =>
    cases moved
    refine ⟨shape, valid, ?_, fun frame member => live frame (List.mem_of_mem_tail member), fun _ => live⟩
    rw [sections_eq_nil live]
    exact account
  | some frame =>
    cases moved
    refine ⟨shape, valid, ?_, fun frame member => live frame (List.mem_of_mem_tail member), fun _ => live⟩
    rw [sections_eq_nil live, finallyGiven, sections_append]
    simpa using account

theorem Orderly.current (orderly : s.Orderly nonce) (encodes : Encodes encode) {sources : PhoneSources}
    {next : PhoneSession} (moved : s.step encode (.current sources) = some next) : next.Orderly nonce := by
  cases held : s.api.currentValid with
  | true =>
    have same : s.api.currentFrame encode sources = (s.api, some s.api.current) := by
      simp only [PhoneApi.currentFrame, held, Bool.true_eq_false, false_and, if_false, if_true]
    simp only [step, held, same, Option.some.injEq] at moved
    rw [← moved]
    exact orderly
  | false =>
    obtain ⟨shape, valid, live, account⟩ := orderly.taken encodes sources
    obtain ⟨reply, after⟩ := PhoneApi.currentFrame_of_fresh encode sources held
    generalize outcome : s.api.popFrame encode sources = pair at shape valid live account reply after
    obtain ⟨api, frame⟩ := pair
    cases frame with
    | none =>
      have shown : s.api.currentFrame encode sources = (api, none) := Prod.ext after reply
      simp only [step, held, shown, Option.some.injEq] at moved
      rw [← moved]
      refine ⟨shape, valid, ?_, fun frame member => live frame (List.mem_of_mem_tail member), fun _ => live⟩
      rw [sections_eq_nil live]
      exact account
    | some frame =>
      have shown : s.api.currentFrame encode sources =
          ({ api with current := frame, currentValid := true }, some frame) := Prod.ext after reply
      simp only [step, held, shown, Option.some.injEq] at moved
      rw [← moved]
      refine ⟨⟨shape.tail_lt, shape.count_le, shape.head_eq⟩, valid, ?_,
        fun frame member => live frame (List.mem_of_mem_tail member), fun none => absurd rfl none⟩
      change sections ((s.finallyGiven ++ [frame]) ++ []) ++ (sections api.view.queued ++ _) = _
      rw [sections_eq_nil live, List.append_nil, sections_append, List.append_assoc]
      exact account

theorem Orderly.step (encodes : Encodes encode) (s : PhoneSession) (move : PhoneMove) (next : PhoneSession)
    (orderly : s.Orderly nonce) (spares : s.Spares move) (moved : s.step encode move = some next) :
    next.Orderly nonce := by
  cases move with
  | live message =>
    cases moved
    exact orderly.live spares encodes
  | pop sources => exact orderly.pop encodes moved
  | pushBack =>
    cases popped : s.popped with
    | none =>
      simp only [PhoneSession.step, popped] at moved
      cases moved
    | some frame =>
      simp only [PhoneSession.step, popped, Option.some.injEq] at moved
      rw [← moved]
      exact orderly.pushBack popped
  | current sources => exact orderly.current encodes moved
  | release =>
    cases moved
    exact ⟨⟨orderly.shape.tail_lt, orderly.shape.count_le, orderly.shape.head_eq⟩, orderly.valid, orderly.account,
      orderly.front, orderly.alone⟩

theorem start_orderly (api : PhoneApi) (room : api.queueSize ≠ 0) (nonce : UInt32) :
    Orderly nonce { api := api.enqueuePhoneConfig nonce } := by
  have positive := PhoneApi.count_pred room
  refine ⟨⟨?_, Nat.zero_le _, (Nat.zero_mod _).symm⟩, (fun channels => nomatch channels),
    ConfigCursor.remaining_start nonce, (fun frame member => nomatch member), (fun none => absurd rfl none)⟩
  change 0 < api.queueSize.toNat
  omega

end PhoneSession

theorem PhoneApi.pendingCount_eq_zero {api : PhoneApi} (drained : api.pendingCount = 0) :
    api.count = 0 ∧ api.currentValid = false ∧ api.cursor.state = .idle := by
  have bound := api.count.toNat_lt
  have total := congrArg UInt32.toNat drained
  simp only [PhoneApi.pendingCount, PhoneApi.configActive, UInt32.toNat_add, UInt8.toNat_toUInt32] at total
  have small : api.count.toNat = 0 ∧ api.currentValid = false ∧ api.cursor.state = .idle := by
    by_cases held : api.currentValid = true <;> by_cases idle : api.cursor.state = .idle <;>
      simp [held, idle] at total ⊢ <;> omega
  exact ⟨UInt8.toNat_inj.mp small.1, small.2⟩

/-- A client that has drained the API was given the whole handshake, in order, provided no live frame
came when the ring was full behind a section that had been put back. -/
theorem handshake_complete_and_in_order (encodes : Encodes encode) (api : PhoneApi) (room : api.queueSize ≠ 0)
    (nonce : UInt32) {moves : List PhoneMove} {last : PhoneSession}
    (spared : Transition.Guarded (PhoneSession.step encode) PhoneSession.Spares
      { api := api.enqueuePhoneConfig nonce } moves)
    (whole : Transition.run (PhoneSession.step encode) { api := api.enqueuePhoneConfig nonce } moves = some last)
    (drained : last.api.pendingCount = 0) : sections last.finallyGiven = handshake nonce := by
  have orderly := Transition.run_invariant (PhoneSession.Orderly.step encodes)
    (PhoneSession.start_orderly api room nonce) spared whole
  obtain ⟨empty, -, idle⟩ := PhoneApi.pendingCount_eq_zero drained
  have account := orderly.account
  have nothing : last.api.view.queued = [] := by
    apply List.eq_nil_of_length_eq_zero
    rw [PhoneApi.length_view, empty]
    rfl
  simp only [nothing, sections_nil, ConfigCursor.remaining, idle, List.append_nil] at account
  exact account

end

theorem numberOnly_encodes : Encodes numberOnly := by
  intro message
  exact ⟨le32 message.id, rfl, by simp [API_FRAME_MAX]⟩

def smallSession : PhoneSession := { api := (phoneapiInit (fun _ => .blank) 1).enqueuePhoneConfig 7 }

def patientMoves : List PhoneMove :=
  .pop plainSources :: .pushBack :: .pop plainSources :: .live (liveMessage 9) ::
    List.replicate 40 (.pop plainSources)

def hastyMoves : List PhoneMove :=
  .pop plainSources :: .pushBack :: .live (liveMessage 9) :: List.replicate 40 (.pop plainSources)

theorem patientMoves_complete : (Transition.run (PhoneSession.step numberOnly) smallSession patientMoves).isSome := by
  decide +kernel

theorem hastyMoves_complete : (Transition.run (PhoneSession.step numberOnly) smallSession hastyMoves).isSome := by
  decide +kernel

theorem handshake_complete_on_one_cell :
    ∃ last, Transition.run (PhoneSession.step numberOnly) smallSession patientMoves = some last ∧
      last.api.pendingCount = 0 ∧ sections last.finallyGiven = handshake 7 := by
  have whole := (Option.some_get patientMoves_complete).symm
  have drained : ((Transition.run (PhoneSession.step numberOnly) smallSession patientMoves).get
      patientMoves_complete).api.pendingCount = 0 := by decide +kernel
  refine ⟨_, whole, drained, ?_⟩
  exact handshake_complete_and_in_order numberOnly_encodes (phoneapiInit (fun _ => .blank) 1) (by decide) 7
    (by decide +kernel) whole drained

/-- One live frame is enough to lose `my_info` from a ring of one cell. -/
theorem handshake_loses_my_info :
    Encodes numberOnly ∧
      ∃ last, Transition.run (PhoneSession.step numberOnly) smallSession hastyMoves = some last ∧
        last.api.pendingCount = 0 ∧ sections last.finallyGiven = (handshake 7).tail ∧
        sections last.finallyGiven ≠ handshake 7 := by
  refine ⟨numberOnly_encodes, _, (Option.some_get hastyMoves_complete).symm, ?_, ?_, ?_⟩
  · decide +kernel
  · decide +kernel
  · decide +kernel

end Meshtastic
