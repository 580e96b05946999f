import Meshtastic.NodeEffects
import Meshtastic.PhoneData
import Meshtastic.PhoneHandshake
import Meshtastic.Serial

/-! The phones of a node. Every transport of `meshtastic_phoneapi.c` has a ring of its own; the packets that the node
delivers go into all of them, the answers to a phone into its own. -/

namespace Meshtastic
open Bytes

def PHONEAPI_MAX_TRANSPORTS : Nat := 2

inductive ToRadio where
  | packet (mesh : MeshPacket)
  | wantConfigId (nonce : UInt32)
  | disconnect
  | heartbeat
  | other (tag : Nat)

/-- The decoding in `meshtastic_phoneapi_handle_toradio`. A message that the framing has made one octet too long ends
in the START1 of the next frame. -/
def parseToradio (decode : Octets → Option ToRadio) (buf : Octets) : Option ToRadio :=
  match decode buf with
  | some message => some message
  | none => if 1 < buf.length ∧ buf.getLast? = some SERIAL_START1 then decode buf.dropLast else none

def PhoneApi.queueStatus (api : PhoneApi) (res : Int) (meshPacketId : UInt32) : QueueStatus :=
  let pending := api.pendingCount
  { res := Int8.ofInt (max (-128) (min res 127))
    free := if pending ≥ api.queueSize.toUInt32 then 0 else (api.queueSize.toUInt32 - pending).toUInt8
    maxlen := api.queueSize
    meshPacketId := meshPacketId }

/-- What a phone is told besides the handshake. -/
inductive PhoneNews where
  | packet (number : UInt32) (mesh : ReportedMeshPacket)
  | queueStatus (number : UInt32) (status : QueueStatus)
  | rebooted
  deriving DecidableEq

def PhoneNews.message : PhoneNews → FromRadio
  | packet number mesh => { id := number, payload := .packet mesh }
  | queueStatus number status => { id := number, payload := .queueStatus status }
  | rebooted => { payload := .rebooted }

def Record.delivered (entry : Record) : Option Packet :=
  match entry.effect with
  | .delivered packet => some packet
  | _ => none

section
variable {cfg : Kconfig}

def Node.deliveries (node : Node cfg) : List Packet := node.log.reverse.filterMap Record.delivered

def Node.deliveredSince (node next : Node cfg) : List Packet := next.deliveries.drop node.deliveries.length

end

/-- A node with its transports: those that are registered, the session of each, and in `told` the messages that
`meshtastic_phoneapi_enqueue_fromradio` was called with for it, oldest first. -/
structure Phones (cfg : Kconfig) (Transport : Type) where
  node : Node cfg
  transports : List Transport := []
  session : Transport → PhoneSession
  told : Transport → List PhoneNews := fun _ => []

/-- `number` and `numbers` are what `meshtastic_next_fromradio_id` gives. -/
inductive PhonesMove (cfg : Kconfig) (Transport : Type) where
  | register (transport : Transport)
  | node (request : Request cfg) (numbers : Nat → UInt32)
  | toradio (transport : Transport) (buf : Octets) (answer : Answer) (number : UInt32)
  | rebooted (transport : Transport)
  | client (transport : Transport) (move : PhoneMove)
  | reset (transport : Transport)

section
variable {cfg : Kconfig} {Transport : Type} [DecidableEq Transport]
variable (encode : FromRadio → Option Octets)

/-- `meshtastic_phoneapi_enqueue_fromradio`. -/
def PhoneSession.tell (s : PhoneSession) (news : PhoneNews) : PhoneSession :=
  { s with api := (s.api.enqueueFromradio encode news.message).1 }

namespace Phones

def withSession (phones : Phones cfg Transport) (transport : Transport) (session : PhoneSession) :
    Phones cfg Transport :=
  { phones with session := Function.update phones.session transport session }

def tell (phones : Phones cfg Transport) (transport : Transport) (news : PhoneNews) : Phones cfg Transport :=
  { phones.withSession transport ((phones.session transport).tell encode news) with
    told := Function.update phones.told transport (phones.told transport ++ [news]) }

def phoneapiRegister (phones : Phones cfg Transport) (transport : Transport) : Phones cfg Transport :=
  if transport ∈ phones.transports then phones
  else if phones.transports.length < PHONEAPI_MAX_TRANSPORTS then
    { phones with transports := phones.transports ++ [transport] }
  else phones

def tellAll (news : PhoneNews) : Phones cfg Transport → List Transport → Phones cfg Transport
  | phones, [] => phones
  | phones, transport :: rest => tellAll news (phones.tell encode transport news) rest

def phoneapiOnPacket (phones : Phones cfg Transport) (number : UInt32) (packet : Packet) : Phones cfg Transport :=
  match packetToMeshPb packet with
  | .error _ => phones
  | .ok mesh => tellAll encode (.packet number mesh) phones phones.transports

def phoneapiOnPackets : (Nat → UInt32) → Phones cfg Transport → List Packet → Phones cfg Transport
  | _, phones, [] => phones
  | numbers, phones, packet :: rest =>
    phoneapiOnPackets (fun turn => numbers (turn + 1)) (phones.phoneapiOnPacket encode (numbers 0) packet) rest

def enqueueQueueStatus (phones : Phones cfg Transport) (transport : Transport) (number : UInt32) (res : Int)
    (meshPacketId : UInt32) : Phones cfg Transport :=
  phones.tell encode transport (.queueStatus number ((phones.session transport).api.queueStatus res meshPacketId))

variable (codec : Codec) (decode : Octets → Option ToRadio) (errnoOf : Errno → Nat)

def resultCode (ret : Option Errno) : Int :=
  match ret with
  | none => 0
  | some err => -(errnoOf err : Int)

/-- `meshtastic_phoneapi_handle_toradio`. A disconnect is left to the transport, which closes its connection or does
nothing. -/
def phoneapiHandleToradio (phones : Phones cfg Transport) (transport : Transport) (buf : Octets) (answer : Answer)
    (number : UInt32) : Option (Phones cfg Transport) :=
  match parseToradio decode buf with
  | none => some phones
  | some (.packet mesh) =>
    (sendMeshPb codec answer phones.node mesh).map fun sent =>
      { phones with node := sent.2 }.enqueueQueueStatus encode transport number (resultCode errnoOf sent.1) mesh.id
  | some (.wantConfigId nonce) =>
    let session := phones.session transport
    some (phones.withSession transport
      { api := session.api.enqueuePhoneConfig nonce, given := session.finallyGiven, popped := none })
  | some .heartbeat => some (phones.enqueueQueueStatus encode transport number 0 0)
  | some .disconnect => some phones
  | some (.other _) => some phones

def phoneapiReset (phones : Phones cfg Transport) (transport : Transport) : Phones cfg Transport :=
  let session := phones.session transport
  phones.withSession transport { api := session.api.reset, given := session.finallyGiven, popped := none }

def clientMove (phones : Phones cfg Transport) (transport : Transport) (move : PhoneMove) :
    Option (Phones cfg Transport) :=
  match move with
  | .live _ => none
  | move => ((phones.session transport).step encode move).map (phones.withSession transport)

def step (board : Board) (phones : Phones cfg Transport) : PhonesMove cfg Transport → Option (Phones cfg Transport)
  | .register transport => some (phones.phoneapiRegister transport)
  | .node request numbers =>
    (phones.node.step codec board request).map fun next =>
      phoneapiOnPackets encode numbers { phones with node := next } (phones.node.deliveredSince next)
  | .toradio transport buf answer number =>
    phones.phoneapiHandleToradio encode codec decode errnoOf transport buf answer number
  | .rebooted transport => some (phones.tell encode transport .rebooted)
  | .client transport move => phones.clientMove encode transport move
  | .reset transport => some (phones.phoneapiReset transport)

end Phones

end

/-! ## A ring and what was put into it -/

/-- The frames that the handshake has not made. -/
def liveFrames (frames : List ApiFrame) : List ApiFrame := frames.filter fun frame => frame.generated = none

/-- With the client and still in the ring, oldest first. -/
def PhoneSession.account (s : PhoneSession) : List ApiFrame := liveFrames (s.finallyGiven ++ s.api.view.queued)

section
variable (encode : FromRadio → Option Octets)

def framesOf (news : List PhoneNews) : List ApiFrame :=
  news.filterMap fun news => (encodeFromradioFrame encode news.message).toOption

def PhoneSession.tells (s : PhoneSession) (news : List PhoneNews) : PhoneSession :=
  news.foldl (PhoneSession.tell encode) s

end

section
variable {encode : FromRadio → Option Octets}

theorem liveFrames_append (first second : List ApiFrame) :
    liveFrames (first ++ second) = liveFrames first ++ liveFrames second := List.filter_append first second

theorem encodeFromradioFrame_live {message : FromRadio} {frame : ApiFrame}
    (made : encodeFromradioFrame encode message = .ok frame) : frame.generated = none := by
  unfold encodeFromradioFrame at made
  split at made
  · cases made
  · split_ifs at made
    cases made
    rfl

theorem emitFrame_generated {cursor : ConfigCursor} {message : FromRadio} {state : PhoneConfigState} {index : UInt8}
    {frame : ApiFrame} (made : (emitFrame encode cursor message state index).1 = .ok frame) :
    frame.generated ≠ none := by
  unfold emitFrame at made
  split at made
  · cases made
  · cases made
    exact Option.some_ne_none _

theorem sectionFrame_generated {Tag : Type} {fill : Tag → Except Errno FromRadio} {tags : List Tag}
    {here next : PhoneConfigState} {goOn : ConfigCursor → Except Errno ApiFrame × ConfigCursor}
    (goesOn : ∀ cursor frame, (goOn cursor).1 = .ok frame → frame.generated ≠ none) {cursor : ConfigCursor}
    {frame : ApiFrame} (made : (sectionFrame encode fill tags here next goOn cursor).1 = .ok frame) :
    frame.generated ≠ none := by
  unfold sectionFrame at made
  split at made
  · exact emitFrame_generated made
  · exact goesOn _ _ made

theorem nextConfigFrame_generated {sources : PhoneSources} {queueSize count : UInt8} {cursor : ConfigCursor}
    {frame : ApiFrame} (made : (nextConfigFrame encode sources queueSize count cursor).1 = .ok frame) :
    frame.generated ≠ none := by
  have modules : ∀ cursor frame, (modulesFrame encode sources queueSize count cursor).1 = .ok frame →
      frame.generated ≠ none :=
    fun cursor frame made => sectionFrame_generated (fun cursor frame made => emitFrame_generated made) made
  unfold nextConfigFrame at made
  split at made
  case h_1 => cases made
  case h_7 => exact sectionFrame_generated modules made
  case h_8 => exact modules _ _ made
  all_goals exact emitFrame_generated made

variable (encode) in
theorem PhoneQueue.takeNext_live (size : UInt8) (sources : PhoneSources) (q : PhoneQueue) :
    liveFrames ((q.takeNext encode size sources).2.toList ++ (q.takeNext encode size sources).1.queued) =
      liveFrames q.queued := by
  cases listed : q.queued with
  | cons oldest rest => simp only [PhoneQueue.takeNext, listed, Option.toList_some, List.singleton_append]
  | nil =>
    cases outcome : nextConfigFrame encode sources size 0 q.cursor with
    | mk result cursor =>
      cases result with
      | error err => simp only [PhoneQueue.takeNext, listed, outcome, Option.toList_none, List.nil_append]
      | ok frame =>
        have generated := nextConfigFrame_generated (congrArg Prod.fst outcome)
        simp only [PhoneQueue.takeNext, listed, outcome, Option.toList_some, List.append_nil, liveFrames]
        exact List.filter_cons_of_neg (by simpa using generated)

namespace PhoneSession
variable {s next : PhoneSession}

theorem account_eq (s : PhoneSession) : s.account = liveFrames s.finallyGiven ++ liveFrames s.api.view.queued :=
  liveFrames_append _ _

/-- The ring keeps its shape, and nothing new is in the account. -/
structure Lessened (s next : PhoneSession) : Prop where
  shape : next.api.Wellformed
  size : next.api.queueSize = s.api.queueSize
  account : next.account.Sublist s.account

theorem Lessened.refl (shape : s.api.Wellformed) : s.Lessened s := ⟨shape, rfl, List.Sublist.refl _⟩

theorem pop_kept (shape : s.api.Wellformed) {sources : PhoneSources} (moved : s.step encode (.pop sources) = some next) :
    s.Lessened next ∧ next.account = s.account := by
  obtain ⟨shapeAfter, same⟩ := PhoneApi.popFrame_simulates encode shape sources
  have size := PhoneApi.call_queueSize encode s.api (.popFrame sources)
  have live := PhoneQueue.takeNext_live encode s.api.queueSize sources s.api.view
  simp only [same] at live
  simp only [PhoneApi.call] at size
  unfold step at moved
  cases popped : s.api.popFrame encode sources with
  | mk api frame =>
    rw [popped] at shapeAfter size live
    simp only [popped] at moved
    have account : next.account = s.account := by
      rw [account_eq s, ← live, liveFrames_append, ← List.append_assoc, ← liveFrames_append]
      cases frame <;> cases moved
      · rw [Option.toList_none, List.append_nil, account_eq]
        rfl
      · rw [account_eq]
        rfl
    refine ⟨⟨?_, ?_, account ▸ List.Sublist.refl _⟩, account⟩
    · cases frame <;> cases moved <;> exact shapeAfter
    · cases frame <;> cases moved <;> exact size

theorem current_kept (shape : s.api.Wellformed) {sources : PhoneSources}
    (moved : s.step encode (.current sources) = some next) : s.Lessened next ∧ next.account = s.account := by
  obtain ⟨shapeAfter, same⟩ := PhoneApi.currentFrame_simulates encode shape sources
  have size := PhoneApi.call_queueSize encode s.api (.currentFrame sources)
  have live := PhoneQueue.takeNext_live encode s.api.queueSize sources s.api.view
  simp only [PhoneApi.call] at size
  unfold step at moved
  cases held : s.api.currentValid with
  | true =>
    have queued : (s.api.currentFrame encode sources).1.view.queued = s.api.view.queued := by
      rw [← congrArg (fun pair => pair.1.queued) same]
      simp only [PhoneQueue.hold, PhoneApi.view, held, if_true]
    rw [held] at moved
    cases moved
    have account : PhoneSession.account { s with api := (s.api.currentFrame encode sources).1 } = s.account := by
      simp only [account_eq, queued]
      rfl
    exact ⟨⟨shapeAfter, size, account ▸ List.Sublist.refl _⟩, account⟩
  | false =>
    have free : s.api.view.held = none := by simp [PhoneApi.view, held]
    simp only [PhoneQueue.hold, free] at same
    have queued := congrArg (fun pair => pair.1.queued) same
    have taken := congrArg Prod.snd same
    simp only at queued taken
    rw [queued, taken] at live
    cases given : s.api.currentFrame encode sources with
    | mk api frame =>
      rw [given] at shapeAfter size live
      simp only [held, given] at moved
      have account : next.account = s.account := by
        rw [account_eq s, ← live, liveFrames_append, ← List.append_assoc, ← liveFrames_append]
        cases frame <;> cases moved
        · rw [Option.toList_none, List.append_nil, account_eq]
          rfl
        · rw [account_eq, finallyGiven, Option.toList_none, List.append_nil]
          rfl
      refine ⟨⟨?_, ?_, account ▸ List.Sublist.refl _⟩, account⟩
      · cases frame <;> cases moved <;> exact shapeAfter
      · cases frame <;> cases moved <;> exact size

theorem pushBack_lessened (shape : s.api.Wellformed) (moved : s.step encode .pushBack = some next) :
    s.Lessened next ∧ (s.api.count ≠ s.api.queueSize → next.account = s.account) := by
  unfold step at moved
  cases popped : s.popped with
  | none =>
    rw [popped] at moved
    cases moved
  | some frame =>
    rw [popped] at moved
    cases moved
    obtain ⟨shapeAfter, same⟩ := PhoneApi.pushFrameFront_simulates shape frame
    have size := PhoneApi.call_queueSize encode s.api (.pushFrameFront frame)
    have queued : (s.api.pushFrameFront frame).view.queued =
        Deque.pushOldest s.api.queueSize.toNat s.api.view.queued frame := by rw [same]
    have before : s.account = liveFrames s.given ++ liveFrames (frame :: s.api.view.queued) := by
      rw [account_eq, finallyGiven, popped, liveFrames_append, List.append_assoc, ← liveFrames_append]
      rfl
    have after : PhoneSession.account { s with api := s.api.pushFrameFront frame, popped := none } =
        liveFrames s.given ++ liveFrames (Deque.pushOldest s.api.queueSize.toNat s.api.view.queued frame) := by
      rw [account_eq, finallyGiven, Option.toList_none, List.append_nil, queued]
    rw [before, after]
    refine ⟨⟨shapeAfter, size, ?_⟩, ?_⟩
    · rw [before, after]
      apply List.Sublist.append_left
      apply List.Sublist.filter
      apply List.Sublist.cons_cons
      split_ifs
      · exact List.dropLast_sublist _
      · exact List.Sublist.refl _
    · intro room
      rw [Deque.pushOldest, if_neg (mt (PhoneApi.full_iff s.api).mpr room)]

theorem released_kept (shape : s.api.Wellformed) (moved : s.step encode .release = some next) :
    s.Lessened next ∧ next.account = s.account := by
  cases moved
  have account : PhoneSession.account { s with api := s.api.releaseCurrentFrame } = s.account := rfl
  exact ⟨⟨⟨shape.tail_lt, shape.count_le, shape.head_eq⟩, rfl, account ▸ List.Sublist.refl _⟩, account⟩

theorem step_lessened (shape : s.api.Wellformed) {move : PhoneMove} (own : ∀ message, move ≠ .live message)
    (moved : s.step encode move = some next) :
    s.Lessened next ∧ (s.api.count ≠ s.api.queueSize ∨ move ≠ .pushBack → next.account = s.account) := by
  cases move with
  | live message => exact absurd rfl (own message)
  | pop sources =>
    obtain ⟨lessened, account⟩ := pop_kept shape moved
    exact ⟨lessened, fun _ => account⟩
  | pushBack =>
    obtain ⟨lessened, account⟩ := pushBack_lessened shape moved
    exact ⟨lessened, fun room => account (room.resolve_right (fun other => other rfl))⟩
  | current sources =>
    obtain ⟨lessened, account⟩ := current_kept shape moved
    exact ⟨lessened, fun _ => account⟩
  | release =>
    obtain ⟨lessened, account⟩ := released_kept shape moved
    exact ⟨lessened, fun _ => account⟩

variable (encode) in
/-- What is put into the ring is the newest of the account, and only a full ring gives up a frame for it. -/
theorem tell_account (shape : s.api.Wellformed) (news : PhoneNews) :
    (s.tell encode news).api.Wellformed ∧ (s.tell encode news).api.queueSize = s.api.queueSize ∧
      (s.tell encode news).api.count.toNat ≤ s.api.count.toNat + 1 ∧
      (s.tell encode news).account.Sublist (s.account ++ framesOf encode [news]) ∧
      (s.api.count.toNat < s.api.queueSize.toNat →
        (s.tell encode news).account = s.account ++ framesOf encode [news]) := by
  obtain ⟨shapeAfter, same⟩ := PhoneApi.call_simulates encode shape (.enqueueFromradio news.message)
  have size := PhoneApi.call_queueSize encode s.api (.enqueueFromradio news.message)
  have queued := congrArg (fun pair => pair.1.queued) same
  simp only [PhoneApi.call] at shapeAfter size queued
  have account : (s.tell encode news).account = liveFrames s.finallyGiven ++
      liveFrames (s.api.enqueueFromradio encode news.message).1.view.queued := account_eq _
  rw [account, account_eq, ← queued, ← PhoneApi.length_view, ← PhoneApi.length_view]
  refine ⟨shapeAfter, size, ?_⟩
  rw [tell, ← queued]
  cases made : encodeFromradioFrame encode news.message with
  | error err =>
    have nothing : framesOf encode [news] = [] := by simp [framesOf, made, Except.toOption]
    simp only [PhoneQueue.call, made, nothing, List.append_nil]
    exact ⟨Nat.le_succ _, List.Sublist.refl _, fun _ => trivial⟩
  | ok frame =>
    have one : framesOf encode [news] = [frame] := by simp [framesOf, made, Except.toOption]
    have live : liveFrames (s.api.view.queued ++ [frame]) = liveFrames s.api.view.queued ++ [frame] := by
      rw [liveFrames_append]
      congr 1
      exact List.filter_cons_of_pos (by simpa using encodeFromradioFrame_live made)
    have shorter := @Deque.pushNewest_sublist _ s.api.queueSize.toNat s.api.view.queued frame
    simp only [PhoneQueue.call, made, one]
    rw [List.append_assoc, ← live]
    refine ⟨?_, (shorter.filter _).append_left _, ?_⟩
    · have bound := shorter.length_le
      rwa [List.length_append] at bound
    · intro room
      rw [Deque.pushNewest, if_neg (Nat.ne_of_lt room)]

variable (encode) in
theorem tell_queued (shape : s.api.Wellformed) (news : PhoneNews) :
    (s.tell encode news).api.view.queued =
      (s.api.view.queued ++ framesOf encode [news]).rtake s.api.queueSize.toNat := by
  have fits : s.api.view.queued.length ≤ s.api.queueSize.toNat := by
    rw [PhoneApi.length_view]
    exact shape.count_le
  obtain ⟨-, same⟩ := PhoneApi.call_simulates encode shape (.enqueueFromradio news.message)
  have queued : (s.tell encode news).api.view.queued = _ := (congrArg (fun pair => pair.1.queued) same).symm
  rw [queued]
  cases made : encodeFromradioFrame encode news.message with
  | error err =>
    have nothing : framesOf encode [news] = [] := by simp [framesOf, made, Except.toOption]
    have none : s.api.view.queued.length - s.api.queueSize.toNat = 0 := by omega
    simp only [PhoneQueue.call, made, nothing, List.append_nil, List.rtake, none, List.drop_zero]
  | ok frame =>
    have one : framesOf encode [news] = [frame] := by simp [framesOf, made, Except.toOption]
    simp only [PhoneQueue.call, made, one]
    exact Deque.pushNewest_eq_rtake fits shape.room frame

variable (encode) in
/-- What is told is put into the ring behind what is there, and a full ring gives up its oldest frames for it. -/
theorem tells_queued (shape : s.api.Wellformed) (news : List PhoneNews) :
    (s.tells encode news).api.view.queued =
      (s.api.view.queued ++ framesOf encode news).rtake s.api.queueSize.toNat := by
  induction news generalizing s with
  | nil =>
    have none : s.api.view.queued.length - s.api.queueSize.toNat = 0 := by
      have bounded := shape.count_le
      rw [PhoneApi.length_view]
      omega
    have nothing : framesOf encode [] = [] := rfl
    rw [nothing, List.append_nil, List.rtake, none, List.drop_zero]
    rfl
  | cons first rest ih =>
    obtain ⟨shapeAfter, size, -⟩ := tell_account encode shape first
    have split : framesOf encode (first :: rest) = framesOf encode [first] ++ framesOf encode rest :=
      @List.filterMap_append _ _ [first] rest _
    have step : s.tells encode (first :: rest) = (s.tell encode first).tells encode rest := rfl
    rw [step, ih shapeAfter, size, tell_queued encode shape, Deque.rtake_append_rtake, split, List.append_assoc]

variable (encode) in
theorem tells_account (shape : s.api.Wellformed) (news : List PhoneNews) :
    (s.tells encode news).api.Wellformed ∧ (s.tells encode news).api.queueSize = s.api.queueSize ∧
      (s.tells encode news).account.Sublist (s.account ++ framesOf encode news) ∧
      (s.api.count.toNat + news.length ≤ s.api.queueSize.toNat →
        (s.tells encode news).account = s.account ++ framesOf encode news) := by
  induction news generalizing s with
  | nil =>
    have nothing : framesOf encode [] = [] := rfl
    rw [nothing, List.append_nil]
    exact ⟨shape, rfl, List.Sublist.refl _, fun _ => rfl⟩
  | cons first rest ih =>
    obtain ⟨shapeAfter, sizeAfter, grown, accountAfter, exact_⟩ := tell_account encode shape first
    obtain ⟨shapeLast, sizeLast, accountLast, exactLast⟩ := ih shapeAfter
    have split : framesOf encode (first :: rest) = framesOf encode [first] ++ framesOf encode rest :=
      @List.filterMap_append _ _ [first] rest _
    rw [split, ← List.append_assoc]
    refine ⟨shapeLast, sizeLast.trans sizeAfter, accountLast.trans (accountAfter.append_right _), ?_⟩
    intro room
    rw [List.length_cons] at room
    have here : s.api.count.toNat < s.api.queueSize.toNat := by omega
    have later : (s.tell encode first).api.count.toNat + rest.length ≤
        (s.tell encode first).api.queueSize.toNat := by
      rw [sizeAfter]
      omega
    rw [tells, List.foldl_cons, ← tells, exactLast later, exact_ here]

end PhoneSession

end

/-! ## What a step tells a transport -/

def PhoneNews.mesh : PhoneNews → Option ReportedMeshPacket
  | packet _ mesh => some mesh
  | _ => none

def PhoneNews.about : PhoneNews → Option UInt32
  | queueStatus _ status => some status.meshPacketId
  | _ => none

def reported (packet : Packet) : Option ReportedMeshPacket := (packetToMeshPb packet).toOption

section
variable {cfg : Kconfig} {Transport : Type}

def ToRadio.asks : ToRadio → Option UInt32
  | packet mesh => some mesh.id
  | heartbeat => some 0
  | wantConfigId _ => none
  | disconnect => none
  | other _ => none

/-- What the phone of this transport asks a status for. -/
def PhonesMove.asks [DecidableEq Transport] (decode : Octets → Option ToRadio) (transport : Transport) :
    PhonesMove cfg Transport → Option UInt32
  | .toradio sender buf _ _ => if sender = transport then (parseToradio decode buf).bind ToRadio.asks else none
  | _ => none

namespace Phones
variable {encode : FromRadio → Option Octets}
variable {phones next : Phones cfg Transport} {transport : Transport}

variable (encode) in
/-- A transport is told some news, and nothing else happens to it. -/
structure Tells (transport : Transport) (phones next : Phones cfg Transport) (news : List PhoneNews) : Prop where
  session : next.session transport = (phones.session transport).tells encode news
  told : next.told transport = phones.told transport ++ news

theorem Tells.silent (session : next.session = phones.session) (told : next.told = phones.told)
    (transport : Transport) : Tells encode transport phones next [] :=
  ⟨congrFun session transport, by rw [told, List.append_nil]⟩

theorem Tells.trans {mid : Phones cfg Transport} {first second : List PhoneNews}
    (before : Tells encode transport phones mid first) (after : Tells encode transport mid next second) :
    Tells encode transport phones next (first ++ second) where
  session := by
    rw [after.session, before.session, PhoneSession.tells, PhoneSession.tells, PhoneSession.tells, List.foldl_append]
  told := by rw [after.told, before.told, List.append_assoc]

variable [DecidableEq Transport]

theorem tell_tells (phones : Phones cfg Transport) (transport : Transport) (news : PhoneNews) :
    Tells encode transport phones (phones.tell encode transport news) [news] :=
  ⟨Function.update_self _ _ _, Function.update_self _ _ _⟩

theorem tell_other (phones : Phones cfg Transport) {transport other : Transport} (apart : other ≠ transport)
    (news : PhoneNews) : Tells encode other phones (phones.tell encode transport news) [] :=
  ⟨Function.update_of_ne apart _ _, (Function.update_of_ne apart _ _).trans (List.append_nil _).symm⟩

variable (encode) in
theorem tellAll_node (news : PhoneNews) (phones : Phones cfg Transport) (transports : List Transport) :
    (tellAll encode news phones transports).node = phones.node ∧
      (tellAll encode news phones transports).transports = phones.transports := by
  induction transports generalizing phones with
  | nil => exact ⟨rfl, rfl⟩
  | cons first rest ih => exact ih (phones.tell encode first news)

variable (encode) in
theorem tellAll_tells (news : PhoneNews) (phones : Phones cfg Transport) (transports : List Transport)
    (transport : Transport) :
    Tells encode transport phones (tellAll encode news phones transports)
      (List.replicate (transports.count transport) news) := by
  induction transports generalizing phones with
  | nil => exact Tells.silent rfl rfl transport
  | cons first rest ih =>
    have later := ih (phones.tell encode first news)
    by_cases here : first = transport
    · subst here
      rw [List.count_cons_self, List.replicate_succ]
      exact (tell_tells phones first news).trans later
    · rw [List.count_cons_of_ne here]
      exact (tell_other phones (Ne.symm here) news).trans later

variable (encode) in
theorem onPacket_tells (phones : Phones cfg Transport) (number : UInt32) (packet : Packet) (transport : Transport) :
    Tells encode transport phones (phones.phoneapiOnPacket encode number packet)
      ((reported packet).toList.flatMap fun mesh =>
        List.replicate (phones.transports.count transport) (.packet number mesh)) := by
  unfold phoneapiOnPacket reported
  cases packetToMeshPb packet with
  | error err => exact Tells.silent rfl rfl transport
  | ok mesh =>
    have told := tellAll_tells encode (.packet number mesh) phones phones.transports transport
    rwa [← List.flatMap_singleton (fun mesh =>
      List.replicate (phones.transports.count transport) (PhoneNews.packet number mesh)) mesh] at told

variable (encode) in
theorem onPacket_node (phones : Phones cfg Transport) (number : UInt32) (packet : Packet) :
    (phones.phoneapiOnPacket encode number packet).node = phones.node ∧
      (phones.phoneapiOnPacket encode number packet).transports = phones.transports := by
  unfold phoneapiOnPacket
  split
  · exact ⟨rfl, rfl⟩
  · exact tellAll_node encode _ phones _

variable (encode) in
theorem onPackets_node (numbers : Nat → UInt32) (phones : Phones cfg Transport) (packets : List Packet) :
    (phoneapiOnPackets encode numbers phones packets).node = phones.node ∧
      (phoneapiOnPackets encode numbers phones packets).transports = phones.transports := by
  induction packets generalizing numbers phones with
  | nil => exact ⟨rfl, rfl⟩
  | cons packet rest ih =>
    obtain ⟨node, transports⟩ := onPacket_node encode phones (numbers 0) packet
    obtain ⟨nodeLast, transportsLast⟩ :=
      ih (fun turn => numbers (turn + 1)) (phones.phoneapiOnPacket encode (numbers 0) packet)
    exact ⟨nodeLast.trans node, transportsLast.trans transports⟩

variable (encode) in
theorem onPackets_tells (numbers : Nat → UInt32) (phones : Phones cfg Transport) (packets : List Packet)
    (transport : Transport) :
    ∃ news, Tells encode transport phones (phoneapiOnPackets encode numbers phones packets) news ∧
      news.filterMap PhoneNews.about = [] ∧
      (phones.transports.count transport = 1 → news.filterMap PhoneNews.mesh = packets.filterMap reported) := by
  induction packets generalizing numbers phones with
  | nil => exact ⟨[], Tells.silent rfl rfl transport, rfl, fun _ => rfl⟩
  | cons packet rest ih =>
    have first := onPacket_tells encode phones (numbers 0) packet transport
    obtain ⟨-, same⟩ := onPacket_node encode phones (numbers 0) packet
    obtain ⟨news, later, silent, meshes⟩ := ih (fun turn => numbers (turn + 1))
      (phones.phoneapiOnPacket encode (numbers 0) packet)
    rw [same] at meshes
    refine ⟨_, first.trans later, ?_, ?_⟩
    · rw [List.filterMap_append, silent]
      cases reported packet with
      | none => rfl
      | some mesh => simp [PhoneNews.about]
    · intro once
      rw [List.filterMap_append, meshes once, List.filterMap_cons, once]
      cases reported packet <;> rfl

/-! ## A step -/

variable {codec : Codec} {board : Board} {decode : Octets → Option ToRadio} {errnoOf : Errno → Nat}

theorem deliveries_grow {node next : Node cfg} {newer : List Record} (grown : next.log = newer ++ node.log) :
    next.deliveries = node.deliveries ++ newer.reverse.filterMap Record.delivered := by
  rw [Node.deliveries, grown, List.reverse_append, List.filterMap_append]
  rfl

theorem step_deliveries {node next : Node cfg} {request : Request cfg}
    (taken : node.step codec board request = some next) :
    next.deliveries = node.deliveries ++ node.deliveredSince next := by
  have grown : ∃ newer, next.log = newer ++ node.log := by
    refine Transition.chain_invariant (fun later => ∃ newer, later.log = newer ++ node.log) ?_ (Node.step_chain taken)
      ⟨[], rfl⟩
    intro mid after change before
    obtain ⟨newer, log⟩ := before
    obtain ⟨newest, grown⟩ := change.log_grows
    exact ⟨newest ++ newer, by rw [grown, log, List.append_assoc]⟩
  obtain ⟨newer, log⟩ := grown
  rw [Node.deliveredSince, deliveries_grow log, List.drop_left]

theorem sendMeshPb_deliveries {node next : Node cfg} {mesh : MeshPacket} {answer : Answer} {ret : Option Errno}
    (sent : sendMeshPb codec answer node mesh = some (ret, next)) : next.deliveries = node.deliveries := by
  obtain ⟨effects, log, fine⟩ := (sendMeshPb_emits sent).log
  have silent : (effects.map (Record.mk node.nodeId)).reverse.filterMap Record.delivered = [] := by
    apply List.filterMap_eq_nil_iff.mpr
    intro entry member
    obtain ⟨effect, inside, same⟩ := List.mem_map.mp (List.mem_reverse.mp member)
    subst same
    cases fine effect inside with
    | decoded payload sends => cases sends <;> rfl
    | encrypted payload sends => cases sends <;> rfl
  rw [deliveries_grow log, silent, List.append_nil]

variable (encode) in
theorem tell_to (phones : Phones cfg Transport) (receiver transport : Transport) (news : PhoneNews) :
    Tells encode transport phones (phones.tell encode receiver news)
      (if receiver = transport then [news] else []) := by
  by_cases here : receiver = transport
  · subst here
    rw [if_pos rfl]
    exact tell_tells phones receiver news
  · rw [if_neg here]
    exact tell_other phones (Ne.symm here) news

theorem phoneapiRegister_count (phones : Phones cfg Transport) (newcomer : Transport)
    (once : phones.transports.count transport = 1) : (phones.phoneapiRegister newcomer).transports.count transport = 1 := by
  unfold phoneapiRegister
  split_ifs with known room
  · exact once
  · have apart : newcomer ≠ transport := by
      intro same
      apply known
      rw [same]
      exact List.count_pos_iff.mp (Nat.lt_of_lt_of_eq Nat.one_pos once.symm)
    rw [List.count_append, once, List.count_singleton, if_neg (by simpa using apart)]
  · exact once

theorem phoneapiHandleToradio_cases {sender : Transport} {buf : Octets} {answer : Answer} {number : UInt32}
    (handled : phones.phoneapiHandleToradio encode codec decode errnoOf sender buf answer number = some next) :
    (∃ mesh ret node status, parseToradio decode buf = some (.packet mesh) ∧
      sendMeshPb codec answer phones.node mesh = some (ret, node) ∧ status.meshPacketId = mesh.id ∧
      status.res = Int8.ofInt (max (-128) (min (resultCode errnoOf ret) 127)) ∧
      next = { phones with node := node }.tell encode sender (.queueStatus number status)) ∨
    (∃ status, parseToradio decode buf = some .heartbeat ∧ status.meshPacketId = 0 ∧
      next = phones.tell encode sender (.queueStatus number status)) ∨
    (∃ nonce, parseToradio decode buf = some (.wantConfigId nonce) ∧
      next = phones.withSession sender { api := (phones.session sender).api.enqueuePhoneConfig nonce
                                         given := (phones.session sender).finallyGiven, popped := none }) ∨
    ((parseToradio decode buf).bind ToRadio.asks = none ∧
      (∀ nonce, parseToradio decode buf ≠ some (.wantConfigId nonce)) ∧ next = phones) := by
  unfold phoneapiHandleToradio at handled
  cases parsed : parseToradio decode buf with
  | none =>
    rw [parsed] at handled
    cases handled
    exact .inr (.inr (.inr ⟨rfl, nofun, rfl⟩))
  | some message =>
    rw [parsed] at handled
    cases message with
    | packet mesh =>
      obtain ⟨⟨ret, node⟩, sent, same⟩ := Option.map_eq_some_iff.mp handled
      exact .inl ⟨mesh, ret, node, _, rfl, sent, rfl, rfl, same.symm⟩
    | heartbeat =>
      cases handled
      exact .inr (.inl ⟨_, rfl, rfl, rfl⟩)
    | wantConfigId nonce =>
      cases handled
      exact .inr (.inr (.inl ⟨nonce, rfl, rfl⟩))
    | disconnect =>
      cases handled
      exact .inr (.inr (.inr ⟨rfl, nofun, rfl⟩))
    | other tag =>
      cases handled
      exact .inr (.inr (.inr ⟨rfl, nofun, rfl⟩))

theorem clientMove_cases {owner : Transport} {own : PhoneMove} (moved : phones.clientMove encode owner own = some next) :
    (∀ message, own ≠ .live message) ∧
      ∃ session, (phones.session owner).step encode own = some session ∧ next = phones.withSession owner session := by
  cases own with
  | live message => cases moved
  | pop sources =>
    obtain ⟨session, stepped, same⟩ := Option.map_eq_some_iff.mp moved
    exact ⟨nofun, session, stepped, same.symm⟩
  | pushBack =>
    obtain ⟨session, stepped, same⟩ := Option.map_eq_some_iff.mp moved
    exact ⟨nofun, session, stepped, same.symm⟩
  | current sources =>
    obtain ⟨session, stepped, same⟩ := Option.map_eq_some_iff.mp moved
    exact ⟨nofun, session, stepped, same.symm⟩
  | release =>
    cases moved
    exact ⟨nofun, _, rfl, rfl⟩

/-- The move makes the transport start over. -/
def Interrupts (decode : Octets → Option ToRadio) (transport : Transport) : PhonesMove cfg Transport → Prop
  | .reset owner => owner = transport
  | .toradio sender buf _ _ => sender = transport ∧ ∃ nonce, parseToradio decode buf = some (.wantConfigId nonce)
  | _ => False

/-- The move is one of the client of this transport, or makes the transport start over. -/
def Drains (decode : Octets → Option ToRadio) (transport : Transport) : PhonesMove cfg Transport → Prop
  | .client owner _ => owner = transport
  | move => Interrupts decode transport move

variable (encode) in
/-- What a step puts into the ring of a transport: a frame for each packet that the node delivered in it, and for the
status that its own phone asked for. The ring then holds the newest of its old frames and these. -/
structure PutsIn (decode : Octets → Option ToRadio) (transport : Transport) (phones : Phones cfg Transport)
    (move : PhonesMove cfg Transport) (next : Phones cfg Transport) (news : List PhoneNews) : Prop where
  told : next.told transport = phones.told transport ++ news
  packets : news.filterMap PhoneNews.mesh = (phones.node.deliveredSince next.node).filterMap reported
  statuses : news.filterMap PhoneNews.about = (move.asks decode transport).toList
  drained : Drains decode transport move → news = []
  ring : ¬Drains decode transport move → (next.session transport).api.view.queued =
    ((phones.session transport).api.view.queued ++ framesOf encode news).rtake
      (phones.session transport).api.queueSize.toNat

omit [DecidableEq Transport] in
theorem deliveredSince_of_eq {node next : Node cfg} (same : next.deliveries = node.deliveries) :
    node.deliveredSince next = [] := by
  rw [Node.deliveredSince, same, List.drop_length]

theorem PutsIn.of_tells {move : PhonesMove cfg Transport} {news : List PhoneNews}
    (shape : (phones.session transport).api.Wellformed) (tells : Tells encode transport phones next news)
    (packets : news.filterMap PhoneNews.mesh = (phones.node.deliveredSince next.node).filterMap reported)
    (statuses : news.filterMap PhoneNews.about = (move.asks decode transport).toList)
    (live : ¬Drains decode transport move) : PutsIn encode decode transport phones move next news where
  told := tells.told
  packets := packets
  statuses := statuses
  drained := fun drains => absurd drains live
  ring := fun _ => by rw [tells.session, PhoneSession.tells_queued encode shape]

theorem PutsIn.of_silence {move : PhonesMove cfg Transport} (shape : (phones.session transport).api.Wellformed)
    (told : next.told = phones.told) (node : next.node = phones.node) (quiet : move.asks decode transport = none)
    (session : ¬Drains decode transport move → next.session transport = phones.session transport) :
    PutsIn encode decode transport phones move next [] where
  told := by rw [told, List.append_nil]
  packets := by
    rw [node, deliveredSince_of_eq rfl]
    rfl
  statuses := by
    rw [quiet]
    rfl
  drained := fun _ => rfl
  ring := fun live => by
    have same := PhoneSession.tells_queued encode shape []
    rw [session live, ← same]
    rfl

theorem step_putsIn {move : PhonesMove cfg Transport} (once : phones.transports.count transport = 1)
    (shape : (phones.session transport).api.Wellformed)
    (taken : phones.step encode codec decode errnoOf board move = some next) :
    next.transports.count transport = 1 ∧
      next.node.deliveries = phones.node.deliveries ++ phones.node.deliveredSince next.node ∧
      ∃ news, PutsIn encode decode transport phones move next news := by
  have still {after : Phones cfg Transport} (same : after.node.deliveries = phones.node.deliveries) :
      after.node.deliveries = phones.node.deliveries ++ phones.node.deliveredSince after.node := by
    rw [deliveredSince_of_eq same, same, List.append_nil]
  cases move with
  | register newcomer =>
    cases taken
    have same : (phones.phoneapiRegister newcomer).node = phones.node ∧
        (phones.phoneapiRegister newcomer).told = phones.told ∧
        (phones.phoneapiRegister newcomer).session = phones.session := by
      unfold phoneapiRegister
      split_ifs <;> exact ⟨rfl, rfl, rfl⟩
    obtain ⟨node, told, session⟩ := same
    exact ⟨phoneapiRegister_count phones newcomer once, still (by rw [node]), [],
      PutsIn.of_silence shape told node rfl (fun _ => congrFun session transport)⟩
  | node request numbers =>
    obtain ⟨node, stepped, same⟩ := Option.map_eq_some_iff.mp taken
    subst same
    obtain ⟨nodeSame, transports⟩ := onPackets_node encode numbers
      { phones with node := node } (phones.node.deliveredSince node)
    obtain ⟨news, tells, silent, meshes⟩ := onPackets_tells encode numbers
      { phones with node := node } (phones.node.deliveredSince node) transport
    refine ⟨by rwa [transports], ?_, news, PutsIn.of_tells shape ⟨tells.session, tells.told⟩ ?_ silent nofun⟩
    · rw [nodeSame]
      exact step_deliveries stepped
    · rw [nodeSame]
      exact meshes once
  | toradio sender buf answer number =>
    rcases phoneapiHandleToradio_cases taken with ⟨mesh, ret, node, status, parsed, sent, about, -, same⟩ |
      ⟨status, parsed, about, same⟩ | ⟨nonce, parsed, same⟩ | ⟨silent, ordinary, same⟩
    · subst same
      have delivered := sendMeshPb_deliveries sent
      refine ⟨once, still delivered, _, PutsIn.of_tells shape ⟨(tell_to encode _ sender transport _).session,
        (tell_to encode _ sender transport _).told⟩ ?_ ?_ ?_⟩
      · refine Eq.trans ?_ (congrArg (List.filterMap reported) (deliveredSince_of_eq delivered)).symm
        split_ifs <;> rfl
      · rw [PhonesMove.asks, parsed]
        split_ifs
        · simp [PhoneNews.about, ToRadio.asks, about]
        · rfl
      · rintro ⟨-, nonce, other⟩
        rw [parsed] at other
        cases other
    · subst same
      refine ⟨once, still rfl, _, PutsIn.of_tells shape (tell_to encode _ sender transport _) ?_ ?_ ?_⟩
      · refine Eq.trans ?_ (congrArg (List.filterMap reported) (deliveredSince_of_eq rfl)).symm
        split_ifs <;> rfl
      · rw [PhonesMove.asks, parsed]
        split_ifs
        · simp [PhoneNews.about, ToRadio.asks, about]
        · rfl
      · rintro ⟨-, nonce, other⟩
        rw [parsed] at other
        cases other
    · subst same
      refine ⟨once, still rfl, [], PutsIn.of_silence shape rfl rfl ?_ ?_⟩
      · rw [PhonesMove.asks, parsed, Option.bind_some, ToRadio.asks, ite_self]
      · intro live
        apply Function.update_of_ne
        intro here
        exact live ⟨here.symm, nonce, parsed⟩
    · subst same
      refine ⟨once, still rfl, [], PutsIn.of_silence shape rfl rfl ?_ (fun _ => rfl)⟩
      rw [PhonesMove.asks, silent, ite_self]
  | rebooted receiver =>
    cases taken
    refine ⟨once, still rfl, _, PutsIn.of_tells shape (tell_to encode phones receiver transport .rebooted) ?_ ?_ nofun⟩
    · refine Eq.trans ?_ (congrArg (List.filterMap reported) (deliveredSince_of_eq rfl)).symm
      split_ifs <;> rfl
    · split_ifs <;> rfl
  | client owner own =>
    obtain ⟨-, session, -, same⟩ := clientMove_cases taken
    subst same
    refine ⟨once, still rfl, [], PutsIn.of_silence shape rfl rfl rfl ?_⟩
    intro live
    exact Function.update_of_ne (Ne.symm live) _ _
  | reset owner =>
    cases taken
    refine ⟨once, still rfl, [], PutsIn.of_silence shape rfl rfl rfl ?_⟩
    intro live
    exact Function.update_of_ne (Ne.symm live) _ _

theorem ofInt_eq_zero {value : Int} (low : -128 ≤ value) (high : value ≤ 127) : Int8.ofInt value = 0 ↔ value = 0 := by
  constructor
  · intro zero
    have same := congrArg Int8.toInt zero
    rw [Int8.toInt_ofInt_of_le (by simpa using low) (by simpa using (Int.lt_of_le_of_lt high (by decide)))] at same
    simpa using same
  · intro zero
    rw [zero]
    rfl

/-- A packet that a phone sends is answered to that phone, with success exactly when the node has sent it. -/
def Answers (codec : Codec) (decode : Octets → Option ToRadio) (phones : Phones cfg Transport)
    (move : PhonesMove cfg Transport) (next : Phones cfg Transport) : Prop :=
  ∀ sender buf answer number mesh, move = .toradio sender buf answer number →
    parseToradio decode buf = some (.packet mesh) →
    ∃ ret status, sendMeshPb codec answer phones.node mesh = some (ret, next.node) ∧
      next.told sender = phones.told sender ++ [.queueStatus number status] ∧ status.meshPacketId = mesh.id ∧
      (status.res = 0 ↔ ret = none)

theorem step_answers (errors : ∀ err, 0 < errnoOf err) {move : PhonesMove cfg Transport}
    (taken : phones.step encode codec decode errnoOf board move = some next) :
    Answers codec decode phones move next := by
  intro sender buf answer number mesh asked parsed
  subst asked
  rcases phoneapiHandleToradio_cases taken with ⟨mesh', ret, node, status, parsed', sent, about, res, same⟩ |
    ⟨status, parsed', -, -⟩ | ⟨nonce, parsed', -⟩ | ⟨silent, -, -⟩
  · rw [parsed] at parsed'
    cases parsed'
    subst same
    refine ⟨ret, status, sent, (tell_tells _ sender _).told, about, ?_⟩
    rw [res, ofInt_eq_zero (by omega) (by omega)]
    cases ret with
    | none => simp [resultCode]
    | some err =>
      have positive := errors err
      simp only [resultCode, reduceCtorEq, iff_false]
      omega
  · rw [parsed] at parsed'
    cases parsed'
  · rw [parsed] at parsed'
    cases parsed'
  · rw [parsed] at silent
    cases silent

/-! ## What a client is given -/

/-- The ring of the transport has room for what the step puts into it. -/
structure KeepsUp (decode : Octets → Option ToRadio) (transport : Transport) (phones : Phones cfg Transport)
    (move : PhonesMove cfg Transport) (next : Phones cfg Transport) : Prop where
  room : (phones.session transport).api.count.toNat + (next.told transport).length ≤
    (phones.session transport).api.queueSize.toNat + (phones.told transport).length
  putsBack : move = .client transport .pushBack →
    (phones.session transport).api.count ≠ (phones.session transport).api.queueSize
  undisturbed : ¬Interrupts decode transport move

variable (encode) in
/-- From one state to another the account has grown by no more than what was told. -/
structure Accounts (transport : Transport) (phones next : Phones cfg Transport) (exactly : Prop) : Prop where
  shape : (next.session transport).api.Wellformed
  told : ∃ news, next.told transport = phones.told transport ++ news ∧
    (next.session transport).account.Sublist ((phones.session transport).account ++ framesOf encode news) ∧
    (exactly → (next.session transport).account = (phones.session transport).account ++ framesOf encode news)

omit [DecidableEq Transport] in
theorem Accounts.of_same {exactly : Prop} (shape : (phones.session transport).api.Wellformed)
    (session : next.session transport = phones.session transport) (told : next.told = phones.told) :
    Accounts encode transport phones next exactly where
  shape := session ▸ shape
  told := by
    have nothing : framesOf encode [] = [] := rfl
    refine ⟨[], by rw [told, List.append_nil], ?_, ?_⟩
    · rw [session, nothing, List.append_nil]
    · intro _
      rw [session, nothing, List.append_nil]

omit [DecidableEq Transport] in
theorem Accounts.of_tells {exactly : Prop} {news : List PhoneNews} (shape : (phones.session transport).api.Wellformed)
    (tells : Tells encode transport phones next news)
    (room : exactly → (phones.session transport).api.count.toNat + (next.told transport).length ≤
      (phones.session transport).api.queueSize.toNat + (phones.told transport).length) :
    Accounts encode transport phones next exactly := by
  obtain ⟨shapeAfter, -, account, kept⟩ := PhoneSession.tells_account encode shape news
  rw [← tells.session] at shapeAfter account kept
  refine ⟨shapeAfter, news, tells.told, account, ?_⟩
  intro careful
  apply kept
  have enough := room careful
  rw [tells.told, List.length_append] at enough
  omega

omit [DecidableEq Transport] in
theorem Accounts.trans {mid : Phones cfg Transport} {here later : Prop}
    (first : Accounts encode transport phones mid here) (second : Accounts encode transport mid next later) :
    Accounts encode transport phones next (here ∧ later) := by
  obtain ⟨news, told, account, kept⟩ := first.told
  obtain ⟨newsLater, toldLater, accountLater, keptLater⟩ := second.told
  have split : framesOf encode (news ++ newsLater) = framesOf encode news ++ framesOf encode newsLater :=
    List.filterMap_append
  refine ⟨second.shape, news ++ newsLater, by rw [toldLater, told, List.append_assoc], ?_, ?_⟩
  · rw [split, ← List.append_assoc]
    exact accountLater.trans (account.append_right _)
  · intro both
    rw [split, ← List.append_assoc, keptLater both.2, kept both.1]

theorem Accounts.of_cleared {exactly : Prop} {session : PhoneSession} {owner : Transport}
    (shape : (phones.session transport).api.Wellformed) (cleared : owner = transport → session.api.Wellformed)
    (empty : session.api.view.queued = []) (given : session.finallyGiven = (phones.session owner).finallyGiven)
    (disturbed : owner = transport → ¬exactly) :
    Accounts encode transport phones (phones.withSession owner session) exactly := by
  by_cases here : owner = transport
  · subst here
    have same : (phones.withSession owner session).session owner = session := Function.update_self _ _ _
    have nothing : framesOf encode [] = [] := rfl
    refine ⟨by rw [same]; exact cleared rfl, [], (List.append_nil _).symm, ?_,
      fun careful => absurd careful (disturbed rfl)⟩
    rw [same, nothing, List.append_nil, PhoneSession.account_eq, PhoneSession.account_eq, empty, given]
    exact List.Sublist.append_left (List.nil_sublist _) _
  · exact Accounts.of_same shape (Function.update_of_ne (Ne.symm here) _ _) rfl

theorem step_accounts {move : PhonesMove cfg Transport} (shape : (phones.session transport).api.Wellformed)
    (taken : phones.step encode codec decode errnoOf board move = some next) :
    Accounts encode transport phones next (KeepsUp decode transport phones move next) := by
  cases move with
  | register newcomer =>
    cases taken
    apply Accounts.of_same shape
    · unfold phoneapiRegister
      split_ifs <;> rfl
    · unfold phoneapiRegister
      split_ifs <;> rfl
  | node request numbers =>
    obtain ⟨node, stepped, same⟩ := Option.map_eq_some_iff.mp taken
    subst same
    obtain ⟨news, tells, -⟩ := onPackets_tells encode numbers
      { phones with node := node } (phones.node.deliveredSince node) transport
    exact Accounts.of_tells shape ⟨tells.session, tells.told⟩ KeepsUp.room
  | toradio sender buf answer number =>
    rcases phoneapiHandleToradio_cases taken with ⟨mesh, ret, node, status, -, -, -, -, same⟩ | ⟨status, -, -, same⟩ |
      ⟨nonce, parsed, same⟩ | ⟨-, -, same⟩
    · subst same
      have tells := tell_to encode { phones with node := node } sender transport
        (.queueStatus number status)
      exact Accounts.of_tells shape ⟨tells.session, tells.told⟩ KeepsUp.room
    · subst same
      exact Accounts.of_tells shape (tell_to encode phones sender transport _) KeepsUp.room
    · subst same
      refine Accounts.of_cleared shape ?_ rfl (List.append_nil _) ?_
      · intro here
        exact (PhoneApi.call_simulates encode (here ▸ shape) (.enqueuePhoneConfig nonce)).1
      · intro here keepsUp
        exact keepsUp.undisturbed ⟨here, nonce, parsed⟩
    · subst same
      exact Accounts.of_same shape rfl rfl
  | rebooted receiver =>
    cases taken
    exact Accounts.of_tells shape (tell_to encode phones receiver transport .rebooted) KeepsUp.room
  | client owner own =>
    obtain ⟨foreign, session, stepped, same⟩ := clientMove_cases taken
    subst same
    by_cases here : owner = transport
    · subst here
      have same : (phones.withSession owner session).session owner = session := Function.update_self _ _ _
      have nothing : framesOf encode [] = [] := rfl
      obtain ⟨lessened, kept⟩ := PhoneSession.step_lessened shape foreign stepped
      refine ⟨same.symm ▸ lessened.shape, [], (List.append_nil _).symm, ?_, ?_⟩
      · rw [same, nothing, List.append_nil]
        exact lessened.account
      · intro keepsUp
        rw [same, nothing, List.append_nil]
        apply kept
        by_cases back : own = .pushBack
        · exact .inl (keepsUp.putsBack (congrArg (PhonesMove.client owner) back))
        · exact .inr back
    · exact Accounts.of_same shape (Function.update_of_ne (Ne.symm here) _ _) rfl
  | reset owner =>
    cases taken
    refine Accounts.of_cleared shape ?_ rfl (List.append_nil _) ?_
    · intro here
      exact (PhoneApi.call_simulates encode (here ▸ shape) .reset).1
    · intro here keepsUp
      exact keepsUp.undisturbed here

/-! ## Runs -/

theorem run_told {moves : List (PhonesMove cfg Transport)} {start last : Phones cfg Transport}
    (once : start.transports.count transport = 1) (shape : (start.session transport).api.Wellformed)
    (whole : Transition.run (step encode codec decode errnoOf board) start moves = some last) :
    ∃ news delivered, last.told transport = start.told transport ++ news ∧
      last.node.deliveries = start.node.deliveries ++ delivered ∧
      news.filterMap PhoneNews.mesh = delivered.filterMap reported ∧
      news.filterMap PhoneNews.about = moves.filterMap (PhonesMove.asks decode transport) := by
  induction moves generalizing start with
  | nil =>
    cases whole
    exact ⟨[], [], (List.append_nil _).symm, (List.append_nil _).symm, rfl, rfl⟩
  | cons move rest ih =>
    obtain ⟨next, taken, later⟩ := Transition.run_cons_eq_some.mp whole
    obtain ⟨onceNext, deliveries, news, putsIn⟩ := step_putsIn once shape taken
    obtain ⟨newsLater, deliveredLater, toldLater, deliveriesLater, meshesLater, aboutLater⟩ :=
      ih onceNext (step_accounts shape taken).shape later
    refine ⟨news ++ newsLater, start.node.deliveredSince next.node ++ deliveredLater, ?_, ?_, ?_, ?_⟩
    · rw [toldLater, putsIn.told, List.append_assoc]
    · rw [deliveriesLater, deliveries, List.append_assoc]
    · rw [List.filterMap_append, List.filterMap_append, putsIn.packets, meshesLater]
    · rw [List.filterMap_append, putsIn.statuses, aboutLater, List.filterMap_cons]
      cases PhonesMove.asks decode transport move <;> rfl

theorem run_accounts {moves : List (PhonesMove cfg Transport)} {start last : Phones cfg Transport}
    (shape : (start.session transport).api.Wellformed)
    (whole : Transition.run (step encode codec decode errnoOf board) start moves = some last) :
    Accounts encode transport start last
      (Transition.Each (step encode codec decode errnoOf board) (KeepsUp decode transport) start moves) := by
  induction moves generalizing start with
  | nil =>
    cases whole
    exact Accounts.of_same shape rfl rfl
  | cons move rest ih =>
    obtain ⟨next, taken, later⟩ := Transition.run_cons_eq_some.mp whole
    have first := step_accounts shape taken
    obtain ⟨shapeLast, news, told, account, kept⟩ := first.trans (ih first.shape later)
    refine ⟨shapeLast, news, told, account, ?_⟩
    intro each
    exact kept (each next taken)

end Phones

def Phones.boot (node : Node cfg) (cells : Transport → Nat → ApiFrame) (size : Transport → UInt8) :
    Phones cfg Transport :=
  { node := node, session := fun transport => { api := phoneapiInit (cells transport) (size transport) } }

variable [DecidableEq Transport]

/-- In every run of a node with its phones, each registered transport is told every packet that the node delivers, once
and in the order of the deliveries, whatever the other transports do; every packet and heartbeat of its own phone is
answered to it with one status, in order, and no other transport is told of that. Each step puts the frames of what it
tells into the ring, behind what is there; a full ring gives up its oldest frames for them. The status of a packet is
a success exactly when the node has sent it. -/
theorem phones_told (encode : FromRadio → Option Octets) (codec : Codec)
    (decode : Octets → Option ToRadio) (errnoOf : Errno → Nat) (errors : ∀ err, 0 < errnoOf err) (board : Board)
    (start : Phones cfg Transport) (distinct : start.transports.Nodup) (transport : Transport)
    (registered : transport ∈ start.transports) (shape : (start.session transport).api.Wellformed)
    (moves : List (PhonesMove cfg Transport)) {last : Phones cfg Transport}
    (whole : Transition.run (Phones.step encode codec decode errnoOf board) start moves = some last) :
    (∃ news delivered, last.told transport = start.told transport ++ news ∧
      last.node.deliveries = start.node.deliveries ++ delivered ∧
      news.filterMap PhoneNews.mesh = delivered.filterMap reported ∧
      news.filterMap PhoneNews.about = moves.filterMap (PhonesMove.asks decode transport)) ∧
    Transition.Each (Phones.step encode codec decode errnoOf board)
      (fun phones move next => (∃ news, Phones.PutsIn encode decode transport phones move next news) ∧
        Phones.Answers codec decode phones move next) start moves := by
  have once := List.count_eq_one_of_mem distinct registered
  have single : ∀ (phones : Phones cfg Transport) move next,
      phones.transports.count transport = 1 ∧ (phones.session transport).api.Wellformed →
      phones.step encode codec decode errnoOf board move = some next →
        ((∃ news, Phones.PutsIn encode decode transport phones move next news) ∧
          Phones.Answers codec decode phones move next) ∧
        next.transports.count transport = 1 ∧ (next.session transport).api.Wellformed := by
    intro phones move next sound taken
    obtain ⟨onceNext, -, putsIn⟩ := Phones.step_putsIn sound.1 sound.2 taken
    exact ⟨⟨putsIn, Phones.step_answers errors taken⟩, onceNext, (Phones.step_accounts sound.2 taken).shape⟩
  exact ⟨Phones.run_told once shape whole, Transition.each_of_invariant single ⟨once, shape⟩ moves⟩

end

inductive PhoneTransport where
  | ble
  | serial
  deriving DecidableEq

def twoPhones : Phones smallKconfig PhoneTransport :=
  { Phones.boot { listeningNode .all with nodeId := 0x22, table := clearTable } (fun _ _ => .blank) (fun _ => 2) with
    transports := [.ble, .serial] }

def transportMoves : List (PhonesMove smallKconfig PhoneTransport) :=
  [.node (.receive heartFrame 0 0 plainAround) (fun _ => 5), .toradio .serial [1] plainAnswer 6,
    .client .serial (.pop plainSources), .client .serial (.pop plainSources)]

def heartbeatOnly (buf : Octets) : Option ToRadio := if buf = [1] then some .heartbeat else none

theorem phones_told_both :
    ∃ last, Transition.run (Phones.step numberOnly (dataCodec fun _ _ _ => 0) heartbeatOnly (fun _ => 22)
        plainBoard) twoPhones transportMoves = some last ∧
      (∃ news delivered, last.told .ble = [] ++ news ∧ last.node.deliveries = [] ++ delivered ∧
        news.filterMap PhoneNews.mesh = delivered.filterMap reported ∧ news.filterMap PhoneNews.about = []) ∧
      last.node.deliveries.map (·.payload) = [[0xe2, 0x9d, 0xa4]] :=
  ⟨_, rfl, (phones_told numberOnly (dataCodec fun _ _ _ => 0) heartbeatOnly (fun _ => 22)
    (fun _ => by decide) plainBoard twoPhones (by decide) .ble (by decide)
    (PhoneApi.init_wellformed (fun _ => .blank) (by decide)) transportMoves rfl).1, rfl⟩

section
variable {cfg : Kconfig} {Transport : Type} [DecidableEq Transport]

/-- In every run, what a client has been given besides its handshakes are frames of what its transport was told, in that
order and none twice. While its ring has room and the transport does not start over, nothing of it is lost: what has
not been given is still in the ring. -/
theorem phones_given_in_order (encode : FromRadio → Option Octets) (codec : Codec)
    (decode : Octets → Option ToRadio) (errnoOf : Errno → Nat) (board : Board) (node : Node cfg)
    (cells : Transport → Nat → ApiFrame) (size : Transport → UInt8) (transport : Transport) (room : size transport ≠ 0)
    (moves : List (PhonesMove cfg Transport)) {last : Phones cfg Transport}
    (whole : Transition.run (Phones.step encode codec decode errnoOf board) (Phones.boot node cells size) moves =
      some last) :
    (liveFrames (last.session transport).finallyGiven).Sublist (framesOf encode (last.told transport)) ∧
    (Transition.Each (Phones.step encode codec decode errnoOf board) (Phones.KeepsUp decode transport)
        (Phones.boot node cells size) moves →
      liveFrames (last.session transport).finallyGiven ++ liveFrames (last.session transport).api.view.queued =
        framesOf encode (last.told transport)) := by
  have shape : ((Phones.boot node cells size).session transport).api.Wellformed :=
    PhoneApi.init_wellformed (cells transport) room
  obtain ⟨-, news, told, account, kept⟩ := Phones.run_accounts shape whole
  have fresh : ((Phones.boot node cells size).session transport).account = [] := rfl
  have untold : (Phones.boot node cells size).told transport = [] := rfl
  rw [fresh, List.nil_append, PhoneSession.account_eq] at account kept
  rw [untold, List.nil_append] at told
  rw [told]
  exact ⟨(List.sublist_append_left _ _).trans account, kept⟩

end

theorem phones_given_in_order_serial :
    ∃ last, Transition.run (Phones.step numberOnly (dataCodec fun _ _ _ => 0) heartbeatOnly (fun _ => 22)
        plainBoard) (Phones.boot (twoPhones.node) (fun _ _ => .blank) (fun _ => 2))
        (.register .ble :: .register .serial :: transportMoves) = some last ∧
      (liveFrames (last.session PhoneTransport.serial).finallyGiven).Sublist
        (framesOf numberOnly (last.told .serial)) ∧
      liveFrames (last.session PhoneTransport.serial).finallyGiven = [liveFrame 5, liveFrame 6] :=
  ⟨_, rfl, (phones_given_in_order numberOnly (dataCodec fun _ _ _ => 0) heartbeatOnly (fun _ => 22)
    plainBoard twoPhones.node (fun _ _ => .blank) (fun _ => 2) .serial (by decide)
    (.register .ble :: .register .serial :: transportMoves) rfl).1, by decide⟩

end Meshtastic
