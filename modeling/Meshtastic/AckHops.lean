import Meshtastic.NewEffects
import Meshtastic.Reactions

/-! The hop limit of an acknowledgement. `routing_hop_limit_for_reply` works it out from the hops of the request;
on its way to the air it passes `send_packet_prepare`, which takes 0 for "not given", and the three bits of the
header. -/

namespace Meshtastic
open Bytes

/-- The frame has the hop limit that was worked out, as its limit and as its start. -/
def CarriesReply (hopLimit : UInt8) (request : Packet) (wire : Octets) : Prop :=
  ∃ hdr enc, readHeader wire = some (hdr, enc) ∧
    flagsHopLimit hdr.flags = routingHopLimitForReply hopLimit request ∧
    flagsHopStart hdr.flags = routingHopLimitForReply hopLimit request

def hopsOnAir (hopLimit reply : UInt8) : UInt8 := (if reply = 0 then hopLimit else reply) &&& FLAGS_HOP_LIMIT_MASK

section
variable {cfg : Kconfig} {codec : Codec} {node next : Node cfg}

theorem Node.Sending.ackHops {request local_ : Packet} {id : UInt32} {payload wire : Octets}
    (sending : node.Sending codec (node.ackPacket request id payload) local_ wire) :
    ∃ hdr enc, readHeader wire = some (hdr, enc) ∧
      flagsHopLimit hdr.flags = hopsOnAir node.hopLimit (routingHopLimitForReply node.hopLimit request) ∧
      flagsHopStart hdr.flags = hopsOnAir node.hopLimit (routingHopLimitForReply node.hopLimit request) := by
  obtain ⟨nodedb, made⟩ := sending.made
  obtain ⟨filledId, -, filled⟩ := sending.filled
  obtain ⟨-, -, key, -, -, same⟩ := buildWirePacket_eq_ok made
  obtain ⟨limit, start, -⟩ := flags_roundTrip local_.hopLimit local_.hopStart local_.wantAck local_.viaMqtt
  have hops : local_.hopLimit = (if routingHopLimitForReply node.hopLimit request = 0 then node.hopLimit
      else routingHopLimitForReply node.hopLimit request) ∧ local_.hopStart = local_.hopLimit := by
    rw [filled]
    by_cases none : routingHopLimitForReply node.hopLimit request = 0
    · simp only [Node.fillPacket, Node.ackPacket, meshPbPacket, Node.routingAck, none, if_true, and_self]
    · simp only [Node.fillPacket, Node.ackPacket, meshPbPacket, Node.routingAck, none, if_false, and_self]
  refine ⟨_, _, by rw [same, readHeader_octets], ?_, ?_⟩
  · exact limit.trans (congrArg (· &&& FLAGS_HOP_LIMIT_MASK) hops.1)
  · exact start.trans (congrArg (· &&& FLAGS_HOP_LIMIT_MASK) (hops.2.trans hops.1))

theorem routingOnDecoded_handed {answer : Answer} {request : Packet} {wire : Octets}
    (done : routingOnDecoded codec answer node request = some next)
    (handed : Effect.handed wire ∈ node.newEffects next) :
    ∃ id payload local_, node.Sending codec (node.ackPacket request id payload) local_ wire := by
  cases (routingOnDecoded_acks done).newEffects _ handed with
  | ack toUs foreign asks fine =>
    cases fine with
    | handed sending => exact ⟨_, _, _, sending⟩

end

/-! ## The hops of the reply -/

theorem hopsOnAir_eq_iff {hopLimit : UInt8} (configured : 1 ≤ hopLimit ∧ hopLimit ≤ 7) (reply : UInt8) :
    reply ≤ 7 ∧ hopsOnAir hopLimit reply = reply ↔ reply ≠ 0 ∧ reply ≤ 7 := by
  unfold hopsOnAir
  by_cases none : reply = 0
  · rw [none, if_pos rfl, mask_eq configured.2]
    constructor
    · intro both
      exact absurd (both.2 ▸ configured.1) (by decide)
    · intro both
      exact absurd rfl both.1
  · rw [if_neg none]
    constructor
    · intro both
      exact ⟨none, both.1⟩
    · intro both
      exact ⟨both.2, mask_eq both.2⟩

theorem routingHopLimitForReply_range {hopLimit : UInt8} (configured : 1 ≤ hopLimit ∧ hopLimit ≤ 7) (request : Packet) :
    routingHopLimitForReply hopLimit request ≠ 0 ∧ routingHopLimitForReply hopLimit request ≤ 7 ↔
      request.hopStart ≠ 0 ∧
        (request.hopStart < request.hopLimit ∨ request.hopStart - request.hopLimit ≤ 7) := by
  have positive : hopLimit ≠ 0 := by
    intro zero
    rw [zero] at configured
    exact absurd configured.1 (by decide)
  unfold routingHopLimitForReply
  by_cases unknown : request.hopStart = 0
  · rw [if_pos unknown]
    exact iff_of_false (fun both => both.1 rfl) (fun both => both.1 unknown)
  rw [if_neg unknown]
  by_cases odd : request.hopStart < request.hopLimit
  · rw [if_pos odd]
    exact iff_of_true ⟨positive, configured.2⟩ ⟨unknown, Or.inl odd⟩
  rw [if_neg odd]
  simp only
  generalize request.hopStart - request.hopLimit = used
  simp only [ne_eq, unknown, not_false_eq_true, odd, false_or, true_and]
  by_cases far : used > hopLimit
  · rw [if_pos far]
    have some : used ≠ 0 := by
      intro zero
      rw [zero] at far
      exact absurd far (by simp)
    exact ⟨fun both => both.2, fun short => ⟨some, short⟩⟩
  · rw [if_neg far]
    have near : used ≤ 7 := UInt8.le_trans (UInt8.not_lt.mp far) configured.2
    split_ifs with margin
    · have nonzero : used + ROUTING_REPLY_HOP_MARGIN ≠ 0 := by
        have small : used.toNat ≤ 7 := near
        intro zero
        have sum : (used.toNat + 2) % 256 = 0 := congrArg UInt8.toNat zero
        omega
      exact iff_of_true ⟨nonzero, UInt8.le_trans (UInt8.le_of_lt margin) configured.2⟩ near
    · exact iff_of_true ⟨positive, configured.2⟩ near

/-- A frame that acknowledges a request carries the hop limit worked out for the reply, at most 7, exactly when
the request says where it started and has not used more than seven hops. -/
theorem ack_hops_iff (cfg : Kconfig) (codec : Codec) (answer : Answer) (node next : Node cfg) (request : Packet)
    (configured : 1 ≤ node.hopLimit ∧ node.hopLimit ≤ 7)
    (done : routingOnDecoded codec answer node request = some next)
    (onAir : ∃ wire, Effect.handed wire ∈ node.newEffects next) :
    (routingHopLimitForReply node.hopLimit request ≤ 7 ∧
      ∀ wire, Effect.handed wire ∈ node.newEffects next → CarriesReply node.hopLimit request wire) ↔
    request.hopStart ≠ 0 ∧
      (request.hopStart < request.hopLimit ∨ request.hopStart - request.hopLimit ≤ 7) := by
  rw [← routingHopLimitForReply_range configured request, ← hopsOnAir_eq_iff configured]
  apply and_congr_right
  intro _
  constructor
  · intro all
    obtain ⟨wire, handed⟩ := onAir
    obtain ⟨id, payload, local_, sending⟩ := routingOnDecoded_handed done handed
    obtain ⟨hdr, enc, parsed, limit, -⟩ := sending.ackHops
    obtain ⟨hdr', enc', parsed', limit', -⟩ := all wire handed
    rw [parsed] at parsed'
    cases parsed'
    exact limit.symm.trans limit'
  · intro same wire handed
    obtain ⟨id, payload, local_, sending⟩ := routingOnDecoded_handed done handed
    obtain ⟨hdr, enc, parsed, limit, start⟩ := sending.ackHops
    exact ⟨hdr, enc, parsed, limit.trans same, start.trans same⟩

def threeHopNode : Node smallKconfig := { twoChannelNode with hopLimit := 3 }

def requestText (hopLimit hopStart : UInt8) : Packet :=
  { heardText 0 0x08 with to_ := 0x11, hopLimit := hopLimit, hopStart := hopStart, wantAck := true }

theorem ack_hops_direct :
    ∃ next, routingOnDecoded (dataCodec fun _ _ _ => 0) plainAnswer threeHopNode (requestText 3 3) = some next ∧
      routingHopLimitForReply 3 (requestText 3 3) = 2 ∧
      (∃ wire, Effect.handed wire ∈ threeHopNode.newEffects next) ∧
      ∀ wire, Effect.handed wire ∈ threeHopNode.newEffects next → CarriesReply 3 (requestText 3 3) wire := by
  refine ⟨_, rfl, rfl, ⟨_, .tail _ (.tail _ (.head _))⟩, ?_⟩
  exact ((ack_hops_iff smallKconfig (dataCodec fun _ _ _ => 0) plainAnswer threeHopNode _ (requestText 3 3) (by decide)
    rfl ⟨_, .tail _ (.tail _ (.head _))⟩).mpr (by decide)).2

/-- Two requests whose acknowledgements do not carry what was worked out. One comes by LoRa and does not say where
it started: the reply should have no hops and goes out with three. The other comes by MQTT and claims to
have used 200 hops, of which three bits are left. -/
theorem ack_hops_differ :
    (∃ next wire, threeHopNode.tryDecode (dataCodec fun _ _ _ => 0) (fun _ => none)
        (({ dest := 0x11, src := 0x33, id := 9, flags := 0x0b, channel := 0x08, nextHop := 0, relayNode := 0 :
          WireHeader }.octets) ++ [0x08, 1, 0x12, 0x02, 0x68, 0x69]) (-90) 6 = some (.ok (requestText 3 0, true)) ∧
      routingOnDecoded (dataCodec fun _ _ _ => 0) plainAnswer threeHopNode (requestText 3 0) = some next ∧
      Effect.handed wire ∈ threeHopNode.newEffects next ∧ routingHopLimitForReply 3 (requestText 3 0) = 0 ∧
      ¬CarriesReply 3 (requestText 3 0) wire) ∧
    (∃ request next, meshPbToPacket (dataCodec fun _ _ _ => 0) twoChannels
        { from_ := 0x33, to_ := 0x11, id := 9, hopLimit := 0, hopStart := 200, wantAck := true,
          payload := .decoded { portnum := PORT_TEXT_MESSAGE, payload := [0x68, 0x69] } } MAX_PAYLOAD_LEN =
          some (.ok request) ∧
      routingOnDecoded (dataCodec fun _ _ _ => 0) plainAnswer threeHopNode request = some next ∧
      (∃ wire, Effect.handed wire ∈ threeHopNode.newEffects next ∧ ¬CarriesReply 3 request wire) ∧
      routingHopLimitForReply 3 request = 200) := by
  constructor
  · refine ⟨_, _, rfl, rfl, .tail _ (.tail _ (.head _)), rfl, ?_⟩
    intro carries
    obtain ⟨hdr, enc, parsed, limit, -⟩ := carries
    cases parsed
    exact absurd limit (by decide)
  · refine ⟨_, _, rfl, rfl, ⟨_, .tail _ (.tail _ (.head _)), ?_⟩, rfl⟩
    intro carries
    obtain ⟨hdr, enc, parsed, limit, -⟩ := carries
    cases parsed
    exact absurd limit (by decide)

end Meshtastic
