import Meshtastic.OwnTraffic
import Meshtastic.RelayPolicy

/-! What becomes of a downlink whose relay fails. `meshtastic_inject_downlink_mesh_packet` remembers the
message before it relays it, and a failed relay ends the call: the message is neither offered again
nor delivered. -/

namespace Meshtastic
open Bytes

section
variable {cfg : Kconfig}

/-- The error of an offer to the radio, for a caller that waits in this way. -/
def RadioAnswer.error (wait : Wait) : RadioAnswer → Option Errno
  | .full err => some (if wait = .noWait then .enomsg else err)
  | .queued result => if wait = .noWait then none else result

def Node.wantsRelay (node : Node cfg) (mesh : MeshPacket) : Bool :=
  mesh.to_ ≠ node.nodeId && (mesh.hopLimit ≠ 0 || match mesh.payload with
    | .encrypted _ => true
    | _ => false)

def relayWait (mesh : MeshPacket) : Wait := if mesh.hopLimit = 0 then .noWait else .forever

def Node.downlink (codec : Codec) (node : Node cfg) (mesh : MeshPacket) : Option Packet :=
  if node.initialized = false ∨ node.dupCheck mesh.from_ mesh.id = true then none
  else
    match meshPbToPacket codec node.table { mesh with viaMqtt := true } MAX_PAYLOAD_LEN with
    | some (.ok packet) =>
      if packetIsToUs node.nodeId packet = false ∨
          node.rebroadcastMode = .corePortnumsOnly ∧ isCorePort packet.portnum = false then none
      else some { packet with viaMqtt := true }
    | _ => none

/-- An error other than EALREADY leaves the duplicate cache as it was, and the application gets what is meant
for it. -/
structure Node.InjectKeeps (codec : Codec) (node next : Node cfg) (mesh : MeshPacket) (ret : Option Errno) : Prop where
  retry : ∀ err, ret = some err → err ≠ .ealready → next.dupCache = node.dupCache ∧ next.dupHead = node.dupHead
  delivered : ∀ packet, node.downlink codec mesh = some packet → .delivered packet ∈ node.newEffects next

/-- The frame of a relay can be made and the radio takes it, or there is nothing to relay. -/
def Node.RelayGoes (codec : Codec) (node : Node cfg) (relay : Answer) (mesh : MeshPacket) : Prop :=
  node.wantsRelay mesh = true →
    node.sendable codec relay mesh = true ∧ relay.radio.error (relayWait mesh) = none

def Node.PayloadFits (node : Node cfg) (mesh : MeshPacket) : Prop :=
  ∀ data, mesh.payload = .decoded data → mesh.to_ = node.nodeId ∨ mesh.to_ = NODE_BROADCAST →
    data.payload.length ≤ MAX_PAYLOAD_LEN

/-- A downlink that is accepted is relayed without an error, or with an EALREADY of the radio when there is
nothing to deliver. -/
def Node.InjectSafe (codec : Codec) (node : Node cfg) (relay : Answer) (mesh : MeshPacket) : Prop :=
  node.initialized = true → node.dupCheck mesh.from_ mesh.id = false →
    node.RelayGoes codec relay mesh ∧ node.PayloadFits mesh ∨
      node.wantsRelay mesh = true ∧ node.sendable codec relay mesh = true ∧
        relay.radio.error (relayWait mesh) = some .ealready ∧ node.downlink codec mesh = none

/-! ## The relay stage -/

variable {codec : Codec}

theorem outboundEnqueue_ret {node after : Node cfg} {wire : Octets} {wait : Wait} {radio : RadioAnswer}
    {ret : Option Errno} (nonempty : wire.length ≠ 0) (short : wire.length ≤ PKT_MAX)
    (sent : node.outboundEnqueue wire wait radio = (ret, after)) : ret = radio.error wait := by
  unfold Node.outboundEnqueue at sent
  rw [if_neg (by omega)] at sent
  cases radio with
  | full err =>
    cases sent
    rfl
  | queued result =>
    cases sent
    rfl

theorem outboundEnqueue_header_ret {node after : Node cfg} {hdr : WireHeader} {enc : Octets} {wait : Wait}
    {radio : RadioAnswer} {ret : Option Errno} (short : enc.length ≤ PAYLOAD_MAX)
    (sent : node.outboundEnqueue (hdr.octets ++ enc) wait radio = (ret, after)) : ret = radio.error wait := by
  have limits : PAYLOAD_MAX = 239 ∧ PKT_MAX = 255 := by decide
  have length : (hdr.octets ++ enc).length = 16 + enc.length := by
    rw [List.length_append, WireHeader.octets_length]
    rfl
  exact outboundEnqueue_ret (by omega) (by omega) sent

theorem channelGetKey_eq_error {slots : Slots} {primaryIndex index : SlotIndex} {err : Errno}
    (failed : channelGetKey slots primaryIndex index = some (.error err)) : err = .enoent := by
  simp only [channelGetKey, channelGetKeyWithin] at failed
  split_ifs at failed
  all_goals cases failed
  all_goals rfl

theorem encodePacketData_ne_ealready (packet : Packet) : encodePacketData codec packet ≠ .error .ealready := by
  unfold encodePacketData
  simp only
  split_ifs <;> exact nofun

theorem ctrCrypt_ne_ealready (key nonce input : Octets) : ctrCrypt codec key nonce input ≠ .error .ealready := by
  unfold ctrCrypt
  split_ifs <;> exact nofun

theorem buildWirePacket_ne_ealready (t : ChannelTable) (nodedb : NodeDbGet) (packet : Packet) :
    buildWirePacket codec t nodedb packet ≠ some (.error .ealready) := by
  intro built
  unfold buildWirePacket at built
  split at built
  next err failed =>
    cases built
    exact encodePacketData_ne_ealready packet failed
  next encoded _ =>
    simp only at built
    split at built
    next => cases built
    next err failed =>
      cases built
      cases channelGetKey_eq_error failed
    next key _ =>
      split at built
      next err failed =>
        cases built
        split_ifs at failed
        exact ctrCrypt_ne_ealready _ _ _ failed
      next => cases built

theorem sendPacket_ret {node next : Node cfg} {packet : Packet} {wait : Wait} {answer : Answer} {ret : Option Errno}
    (ready : node.initialized = true) (addressed : packet.to_ ≠ 0)
    (sent : sendPacket codec answer node packet wait = some (ret, next)) :
    (∃ wire, buildWirePacket codec node.table answer.nodedb (node.fillPacket packet (node.drawId packet.id).1) =
        some (.ok wire)) ∧ ret = answer.radio.error wait ∨
      (¬∃ wire, buildWirePacket codec node.table answer.nodedb (node.fillPacket packet (node.drawId packet.id).1) =
        some (.ok wire)) ∧ ∃ err, ret = some err ∧ err ≠ .ealready := by
  by_cases buildable : ∃ wire, buildWirePacket codec node.table answer.nodedb
      (node.fillPacket packet (node.drawId packet.id).1) = some (.ok wire)
  · obtain ⟨wire, made⟩ := id buildable
    obtain ⟨after, queued, -⟩ := sendPacket_offers ready addressed made sent
    have sending : node.Sending codec packet (node.fillPacket packet (node.drawId packet.id).1) wire :=
      ⟨ready, ⟨_, fun given => by rw [node.drawId_given given], rfl⟩, _, made⟩
    have lengths := sending.length
    have header : HDR_LEN = 16 := rfl
    exact Or.inl ⟨buildable, outboundEnqueue_ret (by omega) lengths.2 queued⟩
  · refine Or.inr ⟨buildable, ?_⟩
    have drew : node.Kept (node.drawId packet.id).2 :=
      (node.emits_drawId packet.id : node.Emits (fun _ => False) _).toKept
    unfold sendPacket sendPacketPrepare at sent
    rw [if_neg (by simp [ready])] at sent
    by_cases long : packet.payload.length > MAX_PAYLOAD_LEN
    · simp only [addressed, long, false_or, if_true] at sent
      cases sent
      exact ⟨.einval, rfl, by decide⟩
    · simp only [addressed, long, or_self, if_false, drew.fillPacket, drew.table] at sent
      cases built : buildWirePacket codec node.table answer.nodedb
          (node.fillPacket packet (node.drawId packet.id).1) with
      | none =>
        rw [built] at sent
        cases sent
      | some result =>
        cases result with
        | ok wire => exact absurd ⟨wire, built⟩ buildable
        | error err =>
          rw [built] at sent
          cases sent
          refine ⟨err, rfl, ?_⟩
          intro same
          subst same
          exact buildWirePacket_ne_ealready _ _ _ built

theorem sendEncryptedMeshPb_ret {node next : Node cfg} {mesh : MeshPacket} {enc : Octets} {answer : Answer}
    {ret : Option Errno} (sent : sendEncryptedMeshPb answer node mesh enc = (ret, next)) :
    ret = if enc.length > PAYLOAD_MAX then some .einval else answer.radio.error .forever := by
  unfold sendEncryptedMeshPb at sent
  by_cases long : enc.length > PAYLOAD_MAX
  · rw [if_pos long] at sent ⊢
    cases sent
    rfl
  · rw [if_neg long] at sent ⊢
    simp only at sent
    split at sent
    next err after queued =>
      cases sent
      exact outboundEnqueue_header_ret (Nat.not_lt.mp long) queued
    next after queued =>
      cases sent
      exact outboundEnqueue_header_ret (Nat.not_lt.mp long) queued

theorem relayInjectedEncryptedMeshPacket_ret {node next : Node cfg} {mesh : MeshPacket} {enc : Octets}
    {radio : RadioAnswer} {ret : Option Errno}
    (sent : relayInjectedEncryptedMeshPacket radio node mesh enc = (ret, next)) :
    ret = if enc.length > PAYLOAD_MAX then some .einval else radio.error .noWait := by
  unfold relayInjectedEncryptedMeshPacket at sent
  by_cases long : enc.length > PAYLOAD_MAX
  · rw [if_pos long] at sent ⊢
    cases sent
    rfl
  · rw [if_neg long] at sent ⊢
    exact outboundEnqueue_header_ret (Nat.not_lt.mp long) sent

theorem injectRelay_encrypted_ret {node next : Node cfg} {mesh : MeshPacket} {around : Surroundings}
    {ret : Option Errno} {enc : Octets} (foreign : mesh.to_ ≠ node.nodeId) (payload : mesh.payload = .encrypted enc)
    (done : injectRelay codec around node { mesh with viaMqtt := true } = some (ret, next)) :
    ret = if enc.length > PAYLOAD_MAX then some .einval
      else around.relay.radio.error (if mesh.hopLimit = 0 then .noWait else .forever) := by
  unfold injectRelay at done
  rw [if_neg foreign] at done
  by_cases last : mesh.hopLimit = 0
  · simp only [payload, last, if_true] at done ⊢
    exact relayInjectedEncryptedMeshPacket_ret (Option.some.inj done)
  · simp only [sendMeshPb, payload, last, if_false] at done ⊢
    exact sendEncryptedMeshPb_ret (Option.some.inj done)

theorem injectRelay_ret {node next : Node cfg} {mesh : MeshPacket} {around : Surroundings} {ret : Option Errno}
    (ready : node.initialized = true)
    (done : injectRelay codec around node { mesh with viaMqtt := true } = some (ret, next)) :
    node.wantsRelay mesh = false ∧ ret = none ∨
      node.wantsRelay mesh = true ∧ node.sendable codec around.relay mesh = true ∧
        ret = around.relay.radio.error (relayWait mesh) ∨
      node.wantsRelay mesh = true ∧ node.sendable codec around.relay mesh = false ∧
        ∃ err, ret = some err ∧ err ≠ .ealready := by
  by_cases toUs : mesh.to_ = node.nodeId
  · unfold injectRelay at done
    rw [if_pos toUs] at done
    cases done
    exact Or.inl ⟨by simp [Node.wantsRelay, toUs], rfl⟩
  unfold Node.wantsRelay Node.sendable relayWait
  cases payload : mesh.payload with
  | encrypted enc =>
    refine Or.inr ?_
    have answered := injectRelay_encrypted_ret toUs payload done
    by_cases long : enc.length > PAYLOAD_MAX
    · rw [if_pos long] at answered
      exact Or.inr ⟨by simp [toUs], by simpa using long, .einval, answered, by decide⟩
    · rw [if_neg long] at answered
      exact Or.inl ⟨by simp [toUs], by simpa using long, answered⟩
  | decoded data =>
    unfold injectRelay at done
    rw [if_neg toUs] at done
    by_cases last : mesh.hopLimit = 0
    · simp only [payload, last, if_true] at done
      cases done
      exact Or.inl ⟨by simp [last], rfl⟩
    · rw [if_neg last] at done ⊢
      simp only [sendMeshPb, payload] at done
      have addressed : (meshPbPacket { mesh with viaMqtt := true } data).to_ ≠ 0 := meshPbPacket_addressed _ data
      refine Or.inr ?_
      rcases sendPacket_ret ready addressed done with ⟨builds, answered⟩ | ⟨fails, own⟩
      · refine Or.inl ⟨by simp [toUs, last], ?_, answered⟩
        simp only [last, ne_eq, not_false_eq_true, decide_true, Bool.true_and]
        exact builds_iff.mpr builds
      · refine Or.inr ⟨by simp [toUs, last], ?_, own⟩
        simp only [last, ne_eq, not_false_eq_true, decide_true, Bool.true_and]
        exact Bool.eq_false_iff.mpr (fun built => fails (builds_iff.mp built))
  | unset enc =>
    unfold injectRelay at done
    rw [if_neg toUs] at done
    by_cases last : mesh.hopLimit = 0
    · simp only [payload, last, if_true] at done
      cases done
      exact Or.inl ⟨by simp [last], rfl⟩
    · rw [if_neg last] at done
      simp only [sendMeshPb, payload] at done
      cases done
      exact Or.inr (Or.inr ⟨by simp [toUs, last], rfl, .enotsup, rfl, by decide⟩)

theorem injectRelay_goes_iff {node next : Node cfg} {mesh : MeshPacket} {around : Surroundings} {ret : Option Errno}
    (ready : node.initialized = true)
    (done : injectRelay codec around node { mesh with viaMqtt := true } = some (ret, next)) :
    node.RelayGoes codec around.relay mesh ↔ ret = none := by
  unfold Node.RelayGoes
  rcases injectRelay_ret ready done with ⟨idle, same⟩ | ⟨wants, makes, answered⟩ | ⟨wants, stuck, err, failed, -⟩
  · simp [idle, same]
  · simp [wants, makes, answered]
  · simp [wants, stuck, failed]

theorem injectRelay_ealready_iff {node next : Node cfg} {mesh : MeshPacket} {around : Surroundings}
    {ret : Option Errno} (ready : node.initialized = true)
    (done : injectRelay codec around node { mesh with viaMqtt := true } = some (ret, next)) :
    (node.wantsRelay mesh = true ∧ node.sendable codec around.relay mesh = true ∧
      around.relay.radio.error (relayWait mesh) = some .ealready) ↔ ret = some .ealready := by
  rcases injectRelay_ret ready done with ⟨idle, same⟩ | ⟨wants, makes, answered⟩ | ⟨wants, stuck, err, failed, other⟩
  · simp [idle, same]
  · simp [wants, makes, answered]
  · simp [stuck, failed, other]

/-! ## The delivery stage -/

theorem decodedPbToPacket_addressee {t : ChannelTable} {mesh : MeshPacket} {data : Data} {payloadLen : Nat}
    {packet : Packet} (made : decodedPbToPacket t mesh data payloadLen = .ok packet) : packet.to_ = mesh.to_ := by
  unfold decodedPbToPacket at made
  by_cases long : data.payload.length ≠ 0 ∧ data.payload.length > payloadLen
  · rw [if_pos long] at made
    cases made
  · rw [if_neg long] at made
    cases made
    rfl

theorem meshPbToPacket_addressee {t : ChannelTable} {mesh : MeshPacket} {payloadLen : Nat} {packet : Packet}
    (made : meshPbToPacket codec t mesh payloadLen = some (.ok packet)) : packet.to_ = mesh.to_ := by
  unfold meshPbToPacket at made
  split at made
  next => exact decodedPbToPacket_addressee (Option.some.inj made)
  next =>
    split at made
    next => cases made
    next => cases made
    next work opened =>
      obtain ⟨data, channel, same⟩ := meshPbTryDecode_eq_ok opened
      subst same
      have found := decodedPbToPacket_addressee (Option.some.inj made)
      exact found

theorem meshPbTryDecode_bounded (bounded : codec.Bounded) {t : ChannelTable} {mesh work : MeshPacket}
    (opened : meshPbTryDecode codec t mesh = some (.ok work)) (encrypted : ∀ data, mesh.payload ≠ .decoded data) :
    ∃ data, work.payload = .decoded data ∧ data.payload.length ≤ MAX_PAYLOAD_LEN := by
  unfold meshPbTryDecode at opened
  simp only at opened
  repeat' split at opened
  -- the message was decoded already, a slot decrypts it, or the call fails
  all_goals cases opened
  next data payload => exact absurd payload (encrypted data)
  next found => exact ⟨_, rfl, tryDecryptSlots_bounded bounded found⟩
  next found => exact ⟨_, rfl, tryDecryptSlots_bounded bounded found⟩

theorem injectDeliver_delivers {node next : Node cfg} {work : MeshPacket} {data : Data} {around : Surroundings}
    {ret : Option Errno} (payload : work.payload = .decoded data) (fits : data.payload.length ≤ MAX_PAYLOAD_LEN)
    (done : injectDeliver codec around node work = some (ret, next)) :
    ret = none ∧ ∀ packet, meshPbToPacket codec node.table work MAX_PAYLOAD_LEN = some (.ok packet) →
      packetIsToUs node.nodeId packet = true →
      ¬(node.rebroadcastMode = .corePortnumsOnly ∧ isCorePort packet.portnum = false) →
        .delivered { packet with viaMqtt := true } ∈ node.newEffects next := by
  have roomy : ¬(data.payload.length ≠ 0 ∧ data.payload.length > MAX_PAYLOAD_LEN) := by omega
  have made : ∃ packet, meshPbToPacket codec node.table work MAX_PAYLOAD_LEN = some (.ok packet) := by
    simp only [meshPbToPacket, payload, decodedPbToPacket, if_neg roomy]
    exact ⟨_, rfl⟩
  obtain ⟨made, same⟩ := made
  unfold injectDeliver at done
  rw [same] at done
  obtain ⟨after, handled, ends⟩ := Option.map_eq_some_iff.mp done
  cases ends
  refine ⟨rfl, ?_⟩
  intro packet again toUs passes
  rw [same] at again
  cases again
  unfold handleInboundMessage filterAndDeliver at handled
  rw [if_neg passes] at handled
  have ours : packetIsToUs node.nodeId { made with viaMqtt := true } = true := toUs
  rw [if_pos ours] at handled
  have later : ((node.note (.delivered { made with viaMqtt := true })).note
      (.event .packetReceived none { made with viaMqtt := true })).Emits (fun _ => True) next :=
    (handleDecoded_emits handled).mono (fun _ _ => trivial)
  exact Node.mem_newEffects_note rfl (((Node.Emits.refl _).note trivial).trans later)

theorem Node.downlink_eq_some {node : Node cfg} {mesh : MeshPacket} {packet : Packet}
    (shown : node.downlink codec mesh = some packet) :
    node.initialized = true ∧ node.dupCheck mesh.from_ mesh.id = false ∧
      ∃ made, meshPbToPacket codec node.table { mesh with viaMqtt := true } MAX_PAYLOAD_LEN = some (.ok made) ∧
        packetIsToUs node.nodeId made = true ∧
        ¬(node.rebroadcastMode = .corePortnumsOnly ∧ isCorePort made.portnum = false) ∧
        packet = { made with viaMqtt := true } := by
  unfold downlink at shown
  by_cases refused : node.initialized = false ∨ node.dupCheck mesh.from_ mesh.id = true
  · rw [if_pos refused] at shown
    cases shown
  rw [if_neg refused] at shown
  obtain ⟨on, fresh⟩ := not_or.mp refused
  refine ⟨by simpa using on, by simpa using fresh, ?_⟩
  split at shown
  next made opened =>
    by_cases kept : packetIsToUs node.nodeId made = false ∨
        node.rebroadcastMode = .corePortnumsOnly ∧ isCorePort made.portnum = false
    · rw [if_pos kept] at shown
      cases shown
    · rw [if_neg kept] at shown
      obtain ⟨toUs, passes⟩ := not_or.mp kept
      exact ⟨made, opened, by simpa using toUs, passes, (Option.some.inj shown).symm⟩
  next => cases shown

theorem Node.downlink_addressed {node : Node cfg} {mesh : MeshPacket} {packet : Packet}
    (shown : node.downlink codec mesh = some packet) : mesh.to_ = node.nodeId ∨ mesh.to_ = NODE_BROADCAST := by
  obtain ⟨-, -, made, opened, toUs, -, -⟩ := Node.downlink_eq_some shown
  have same : made.to_ = mesh.to_ := (meshPbToPacket_addressee opened).trans rfl
  rw [← same]
  simpa [packetIsToUs] using toUs

/-! ## The call -/

/-- What is new to the cache changes it. -/
theorem Node.dupAdd_dupCache_ne {node : Node cfg} {src id : UInt32} (fresh : node.dupCheck src id = false) :
    (node.dupAdd src id).dupCache ≠ node.dupCache := by
  intro same
  have seen : node.dupCheck src id = true := by
    have added := node.dupAdd_dupCheck src id
    unfold dupCheck at added ⊢
    rw [same] at added
    exact added
  rw [seen] at fresh
  cases fresh

section
variable {node next after : Node cfg} {mesh : MeshPacket} {around : Surroundings} {ret : Option Errno}

theorem injectDownlinkMeshPacket_dupCache (on : node.initialized = true) (fresh : node.dupCheck mesh.from_ mesh.id = false)
    (done : injectDownlinkMeshPacket codec around node mesh = some (ret, next)) : next.dupCache ≠ node.dupCache := by
  have remembered : node.remember (.inject mesh around) = node.dupAdd mesh.from_ mesh.id := by
    simp only [Node.remember, Node.accepts, on, fresh, Bool.true_eq_false, Bool.false_eq_true, if_false]
  have kept := (injectDownlinkMeshPacket_emits done).dupCache
  rw [kept, remembered]
  exact Node.dupAdd_dupCache_ne fresh

theorem injectDownlinkMeshPacket_relay_failed {err : Errno} (on : node.initialized = true)
    (fresh : node.dupCheck mesh.from_ mesh.id = false)
    (relayed : injectRelay codec around (node.dupAdd mesh.from_ mesh.id) { mesh with viaMqtt := true } =
      some (some err, after))
    (done : injectDownlinkMeshPacket codec around node mesh = some (ret, next)) :
    ret = some err ∧ ∀ packet, .delivered packet ∉ node.newEffects next := by
  unfold injectDownlinkMeshPacket at done
  simp only [on, fresh, relayed, Bool.true_eq_false, Bool.false_eq_true, if_false] at done
  cases done
  refine ⟨rfl, ?_⟩
  intro packet member
  have fine : (node.dupAdd mesh.from_ mesh.id).MeshEffect codec { mesh with viaMqtt := true } (.delivered packet) :=
    (injectRelay_emits relayed).newEffects _ member
  cases fine with
  | decoded payload fine => cases fine
  | encrypted payload fine => cases fine

theorem injectDeliver_downlink {work : MeshPacket} {data : Data} {relayRet : Option Errno}
    (relayed : injectRelay codec around (node.dupAdd mesh.from_ mesh.id) { mesh with viaMqtt := true } =
      some (relayRet, after)) (done : injectDeliver codec around after work = some (ret, next))
    (payload : work.payload = .decoded data) (fits : data.payload.length ≤ MAX_PAYLOAD_LEN)
    (opened : meshPbToPacket codec node.table { mesh with viaMqtt := true } MAX_PAYLOAD_LEN =
      meshPbToPacket codec node.table work MAX_PAYLOAD_LEN) :
    ret = none ∧ ∀ packet, node.downlink codec mesh = some packet → .delivered packet ∈ node.newEffects next := by
  have relaying := injectRelay_emits relayed
  have alike : node.Alike after := (node.alike_dupAdd mesh.from_ mesh.id).trans relaying.toAlike
  obtain ⟨returned, delivers⟩ := injectDeliver_delivers payload fits done
  refine ⟨returned, ?_⟩
  intro packet shown
  obtain ⟨-, -, made, found, toUs, passes, same⟩ := Node.downlink_eq_some shown
  rw [opened, ← alike.table] at found
  rw [← alike.nodeId] at toUs
  rw [← alike.rebroadcastMode] at passes
  have delivered := delivers made found toUs passes
  have grown : after.Emits (fun _ => True) next := by
    unfold injectDeliver at done
    rw [found] at done
    obtain ⟨last, handled, ends⟩ := Option.map_eq_some_iff.mp done
    cases ends
    have delivering : after.Emits (fun _ => True) (filterAndDeliver after { made with viaMqtt := true }) :=
      filterAndDeliver_emits_of after _ trivial trivial trivial
    exact delivering.trans ((handleDecoded_emits handled).mono (fun _ _ => trivial))
  have whole := relaying.newEffects_trans grown
  have start : node.newEffects next = (node.dupAdd mesh.from_ mesh.id).newEffects next := rfl
  rw [same, start, whole]
  exact List.mem_append_left _ delivered

theorem injectDeliver_crowded {work : MeshPacket} {data : Data} (payload : work.payload = .decoded data)
    (long : MAX_PAYLOAD_LEN < data.payload.length) (done : injectDeliver codec around node work = some (ret, next)) :
    ret = some .enomem := by
  have crowded : data.payload.length ≠ 0 ∧ data.payload.length > MAX_PAYLOAD_LEN :=
    ⟨Nat.ne_of_gt (Nat.zero_lt_of_lt long), long⟩
  unfold injectDeliver meshPbToPacket at done
  rw [payload] at done
  simp only [decodedPbToPacket, if_pos crowded] at done
  cases done
  rfl

theorem Node.downlink_sealed {err : Errno} (encrypted : ∀ data, mesh.payload ≠ .decoded data)
    (failed : meshPbTryDecode codec node.table { mesh with viaMqtt := true } = some (.error err)) :
    node.downlink codec mesh = none := by
  apply Option.eq_none_iff_forall_ne_some.mpr
  intro packet shown
  obtain ⟨-, -, made, found, -, -, -⟩ := Node.downlink_eq_some shown
  unfold meshPbToPacket at found
  rw [failed] at found
  split at found
  next data payload => exact absurd payload (encrypted data)
  next => cases found

theorem Node.not_payloadFits {data : Data} (payload : mesh.payload = .decoded data) (long : ¬node.PayloadFits mesh) :
    MAX_PAYLOAD_LEN < data.payload.length := by
  by_contra short
  apply long
  intro other same _
  cases same.symm.trans payload
  exact Nat.not_lt.mp short

theorem injectDownlinkMeshPacket_relayed (bounded : codec.Bounded) (on : node.initialized = true)
    (fresh : node.dupCheck mesh.from_ mesh.id = false)
    (relayed : injectRelay codec around (node.dupAdd mesh.from_ mesh.id) { mesh with viaMqtt := true } =
      some (none, after))
    (done : injectDownlinkMeshPacket codec around node mesh = some (ret, next)) :
    (node.PayloadFits mesh → ret = none ∧
      ∀ packet, node.downlink codec mesh = some packet → .delivered packet ∈ node.newEffects next) ∧
    (¬node.PayloadFits mesh → ret = some .enomem) := by
  have relaying := injectRelay_emits relayed
  have alike : node.Alike after := (node.alike_dupAdd mesh.from_ mesh.id).trans relaying.toAlike
  unfold injectDownlinkMeshPacket at done
  simp only [on, fresh, relayed, Bool.true_eq_false, Bool.false_eq_true, if_false] at done
  by_cases elsewhere : mesh.to_ ≠ after.nodeId ∧ mesh.to_ ≠ NODE_BROADCAST
  · rw [if_pos elsewhere] at done
    cases done
    rw [alike.nodeId] at elsewhere
    have foreign : ¬(mesh.to_ = node.nodeId ∨ mesh.to_ = NODE_BROADCAST) := not_or.mpr elsewhere
    constructor
    · intro fits
      exact ⟨rfl, fun packet shown => absurd (Node.downlink_addressed shown) foreign⟩
    · intro long
      exact absurd (fun _ _ ours => absurd ours foreign) long
  rw [if_neg elsewhere] at done
  have ours : mesh.to_ = node.nodeId ∨ mesh.to_ = NODE_BROADCAST := by
    rw [alike.nodeId] at elsewhere
    tauto
  split at done
  next data payload =>
    constructor
    · intro fits
      exact injectDeliver_downlink relayed done payload (fits data payload ours) rfl
    · intro long
      have decoded : ({ mesh with viaMqtt := true } : MeshPacket).payload = .decoded data := payload
      exact injectDeliver_crowded decoded (Node.not_payloadFits payload long) done
  next encrypted =>
    have fits : node.PayloadFits mesh := fun data same _ => absurd same (encrypted data)
    refine ⟨fun _ => ?_, fun long => absurd fits long⟩
    split at done
    next => cases done
    next err failed =>
      cases done
      rw [alike.table] at failed
      have unseen := Node.downlink_sealed encrypted failed
      refine ⟨rfl, fun packet shown => ?_⟩
      rw [unseen] at shown
      cases shown
    next work opened =>
      obtain ⟨data, decoded, short⟩ := meshPbTryDecode_bounded bounded opened encrypted
      rw [alike.table] at opened
      exact injectDeliver_downlink relayed done decoded short (meshPbToPacket_opened opened)

theorem Node.InjectKeeps.of_refused (refused : node.initialized = false ∨ node.dupCheck mesh.from_ mesh.id = true)
    (done : injectDownlinkMeshPacket codec around node mesh = some (ret, next)) :
    node.InjectKeeps codec next mesh ret := by
  have same := injectDownlinkMeshPacket_refused refused done
  have nothing : node.downlink codec mesh = none := by
    unfold Node.downlink
    rw [if_pos refused]
  constructor
  · intro err _ _
    rw [same]
    exact ⟨rfl, rfl⟩
  · intro packet shown
    rw [nothing] at shown
    cases shown

theorem Node.injectKeeps_iff_of_fresh (on : node.initialized = true) (fresh : node.dupCheck mesh.from_ mesh.id = false)
    (done : injectDownlinkMeshPacket codec around node mesh = some (ret, next)) :
    node.InjectKeeps codec next mesh ret ↔ (∀ err, ret = some err → err = .ealready) ∧
      ∀ packet, node.downlink codec mesh = some packet → .delivered packet ∈ node.newEffects next := by
  have changed := injectDownlinkMeshPacket_dupCache on fresh done
  constructor
  · intro keeps
    refine ⟨fun err failed => ?_, keeps.delivered⟩
    by_contra other
    exact changed (keeps.retry err failed other).1
  · intro both
    exact ⟨fun err failed other => absurd (both.1 err failed) other, both.2⟩

/-- Every downlink can be offered again after an error, and is delivered, exactly when its relay does not fail. -/
theorem inject_keeps_iff (cfg : Kconfig) (codec : Codec) (bounded : codec.Bounded) (node next : Node cfg)
    (mesh : MeshPacket) (around : Surroundings) (ret : Option Errno)
    (done : injectDownlinkMeshPacket codec around node mesh = some (ret, next)) :
    node.InjectKeeps codec next mesh ret ↔ node.InjectSafe codec around.relay mesh := by
  by_cases refused : node.initialized = false ∨ node.dupCheck mesh.from_ mesh.id = true
  · apply iff_of_true (Node.InjectKeeps.of_refused refused done)
    intro on fresh
    rw [on, fresh] at refused
    simp at refused
  obtain ⟨running, unseen⟩ := not_or.mp refused
  have on : node.initialized = true := by simpa using running
  have fresh : node.dupCheck mesh.from_ mesh.id = false := by simpa using unseen
  obtain ⟨relayRet, after, relayed, -⟩ := injectDownlinkMeshPacket_handles running unseen done
  have ready : (node.dupAdd mesh.from_ mesh.id).initialized = true := on
  have goes : node.RelayGoes codec around.relay mesh ↔ relayRet = none := by
    rw [← injectRelay_goes_iff ready relayed]
    unfold Node.RelayGoes
    rw [Node.sendable_dupAdd]
    rfl
  have refusal : (node.wantsRelay mesh = true ∧ node.sendable codec around.relay mesh = true ∧
      around.relay.radio.error (relayWait mesh) = some .ealready) ↔ relayRet = some .ealready := by
    rw [← injectRelay_ealready_iff ready relayed, Node.sendable_dupAdd]
    rfl
  have safe : node.InjectSafe codec around.relay mesh ↔
      relayRet = none ∧ node.PayloadFits mesh ∨ relayRet = some .ealready ∧ node.downlink codec mesh = none := by
    rw [← goes, ← refusal, and_assoc, and_assoc]
    exact ⟨fun holds => holds on fresh, fun holds _ _ => holds⟩
  rw [Node.injectKeeps_iff_of_fresh on fresh done, safe]
  cases relayRet with
  | none =>
    obtain ⟨delivers, crowded⟩ := injectDownlinkMeshPacket_relayed bounded on fresh relayed done
    by_cases fits : node.PayloadFits mesh
    · obtain ⟨returned, delivered⟩ := delivers fits
      exact iff_of_true ⟨by simp [returned], delivered⟩ (Or.inl ⟨rfl, fits⟩)
    · apply iff_of_false
      · intro both
        cases both.1 .enomem (crowded fits)
      · simp [fits]
  | some err =>
    obtain ⟨returned, undelivered⟩ := injectDownlinkMeshPacket_relay_failed on fresh relayed done
    have lost : (∀ packet, node.downlink codec mesh = some packet → .delivered packet ∈ node.newEffects next) ↔
        node.downlink codec mesh = none := by
      rw [Option.eq_none_iff_forall_ne_some]
      exact forall_congr' fun packet => imp_congr_right fun _ => iff_of_false (undelivered packet) id
    rw [lost, returned]
    simp

end

end

def textDownlink : MeshPacket :=
  { from_ := 0x33, to_ := NODE_BROADCAST, id := 9, hopLimit := 3, hopStart := 3
    payload := .decoded { portnum := PORT_TEXT_MESSAGE, payload := [0x68, 0x69] } }

theorem inject_keeps_textDownlink :
    ∃ node next, Transition.run (Node.step (dataCodec fun _ _ _ => 0) plainBoard) (Node.powerOn smallKconfig coldTable)
        [.init plainNodeConfig plainBoot] = some node ∧
      injectDownlinkMeshPacket (dataCodec fun _ _ _ => 0) plainAround node textDownlink = some (none, next) ∧
      node.InjectKeeps (dataCodec fun _ _ _ => 0) next textDownlink none := by
  refine ⟨_, _, rfl, rfl, ?_⟩
  refine (inject_keeps_iff smallKconfig _ (dataCodec_bounded _) _ _ textDownlink plainAround none rfl).mpr ?_
  intro _ _
  refine Or.inl ⟨fun _ => ⟨by decide +kernel, rfl⟩, fun data same _ => ?_⟩
  cases same
  decide

/-- The transmission fails: the text is not delivered here, and is refused as a duplicate when it is offered
again. -/
theorem inject_failed_relay_loses :
    ∃ node next packet, Transition.run (Node.step (dataCodec fun _ _ _ => 0) plainBoard)
        (Node.powerOn smallKconfig coldTable) [.init plainNodeConfig plainBoot] = some node ∧
      injectDownlinkMeshPacket (dataCodec fun _ _ _ => 0)
        { plainAround with relay := { plainAnswer with radio := .queued (some .eio) } } node textDownlink =
          some (some .eio, next) ∧
      node.dupCheck textDownlink.from_ textDownlink.id = false ∧
      next.dupCheck textDownlink.from_ textDownlink.id = true ∧
      injectDownlinkMeshPacket (dataCodec fun _ _ _ => 0) plainAround next textDownlink = some (some .ealready, next) ∧
      node.downlink (dataCodec fun _ _ _ => 0) textDownlink = some packet ∧
      .delivered packet ∉ node.newEffects next ∧
      ¬node.InjectKeeps (dataCodec fun _ _ _ => 0) next textDownlink (some .eio) := by
  refine ⟨_, _, _, rfl, rfl, by decide +kernel, by decide +kernel, rfl, rfl, by decide +kernel, ?_⟩
  intro keeps
  have kept := (keeps.retry .eio rfl (by decide)).1
  exact absurd (congrFun kept ⟨0, by decide⟩) (by decide +kernel)

end Meshtastic
