import Meshtastic.NodeEffects

/-! What one call adds to the log of a node, and which part of it a send is responsible for. -/

namespace Meshtastic
open Bytes

def RadioAnswer.takes : RadioAnswer → Bool
  | .queued _ => true
  | .full _ => false

section
variable {cfg : Kconfig}

def Node.newEffects (node next : Node cfg) : List Effect :=
  (next.log.take (next.log.length - node.log.length)).map Record.effect

theorem Node.newEffects_eq {node next : Node cfg} {new : List Record} (grown : next.log = new ++ node.log) :
    node.newEffects next = new.map Record.effect := by
  unfold newEffects
  rw [grown, List.length_append, Nat.add_sub_cancel, List.take_left]

theorem Node.newEffects_map {node next : Node cfg} {id : UInt32} {effects : List Effect}
    (grown : next.log = effects.map (Record.mk id) ++ node.log) : node.newEffects next = effects := by
  rw [Node.newEffects_eq grown, List.map_map]
  exact List.map_id _

theorem Node.Emits.newEffects {allowed : Effect → Prop} {node next : Node cfg} (emits : node.Emits allowed next) :
    ∀ effect ∈ node.newEffects next, allowed effect := by
  obtain ⟨effects, grown, fine⟩ := emits.log
  rw [Node.newEffects_map grown]
  exact fine

theorem Node.Emits.newEffects_trans {allowed also : Effect → Prop} {node mid next : Node cfg}
    (first : node.Emits allowed mid) (second : mid.Emits also next) :
    node.newEffects next = mid.newEffects next ++ node.newEffects mid := by
  obtain ⟨older, before, -⟩ := first.log
  obtain ⟨newer, after, -⟩ := second.log
  have whole : next.log = (newer.map (Record.mk mid.nodeId) ++ older.map (Record.mk node.nodeId)) ++ node.log := by
    rw [after, before, List.append_assoc]
  rw [Node.newEffects_eq whole, Node.newEffects_eq before, Node.newEffects_eq after, List.map_append]

theorem Node.mem_newEffects_note {allowed : Effect → Prop} {node mid next : Node cfg} {effect : Effect}
    (same : mid.log = node.log) (later : (mid.note effect).Emits allowed next) : effect ∈ node.newEffects next := by
  obtain ⟨newer, after, -⟩ := later.log
  have whole : next.log = (newer.map (Record.mk (mid.note effect).nodeId) ++ [⟨mid.nodeId, effect⟩]) ++ node.log := by
    rw [after, List.append_assoc, ← same]
    rfl
  rw [Node.newEffects_eq whole, List.map_append]
  exact List.mem_append_right _ (List.mem_singleton_self _)

def Node.Shows {Value : Type} (kind : Value → Effect) (node next : Node cfg) : Prop :=
  ∃ value, kind value ∈ node.newEffects next

theorem Node.Emits.shows_iff {Value : Type} {kind : Value → Effect} {node mid next : Node cfg} {older : List Record}
    (emits : mid.Emits (fun effect => ∀ value, effect ≠ kind value) next) (grown : mid.log = older ++ node.log) :
    node.Shows kind next ↔ ∃ value, kind value ∈ older.map Record.effect := by
  obtain ⟨effects, later, quiet⟩ := emits.log
  have whole : next.log = (effects.map (Record.mk mid.nodeId) ++ older) ++ node.log := by
    rw [later, grown, List.append_assoc]
  unfold Shows
  rw [Node.newEffects_eq whole, List.map_append]
  apply exists_congr
  intro value
  rw [List.mem_append]
  constructor
  · intro member
    rcases member with new | old
    · rw [List.map_map] at new
      obtain ⟨effect, inside, here⟩ := List.mem_map.mp new
      exact absurd here (quiet effect inside value)
    · exact old
  · intro old
    exact Or.inr old

theorem Node.not_shows_of_emits {Value : Type} {kind : Value → Effect} {node next : Node cfg}
    (emits : node.Emits (fun effect => ∀ value, effect ≠ kind value) next) : ¬node.Shows kind next := by
  rw [emits.shows_iff (List.nil_append node.log).symm]
  intro shown
  obtain ⟨value, member⟩ := shown
  exact List.not_mem_nil member

theorem Node.not_shows_of_same {Value : Type} {kind : Value → Effect} {node next : Node cfg}
    (same : next.log = node.log) : ¬node.Shows kind next := by
  intro shown
  obtain ⟨value, member⟩ := shown
  rw [Node.newEffects_eq (same.trans (List.nil_append node.log).symm)] at member
  exact List.not_mem_nil member

/-! ## Sending -/

variable {codec : Codec}

theorem outboundEnqueue_newEffects {node next : Node cfg} {wire : Octets} {wait : Wait} {radio : RadioAnswer}
    {ret : Option Errno} (nonempty : wire.length ≠ 0) (short : wire.length ≤ PKT_MAX)
    (sent : node.outboundEnqueue wire wait radio = (ret, next)) :
    next.log = (if radio.takes then [⟨node.nodeId, .handed wire⟩] else []) ++ node.log := by
  unfold Node.outboundEnqueue at sent
  rw [if_neg (by omega)] at sent
  cases radio with
  | full err =>
    cases sent
    rfl
  | queued result =>
    cases sent
    rfl

theorem sendPacket_offers {node next : Node cfg} {packet : Packet} {wait : Wait} {answer : Answer} {wire : Octets}
    {ret : Option Errno} (ready : node.initialized = true) (addressed : packet.to_ ≠ 0)
    (made : buildWirePacket codec node.table answer.nodedb (node.fillPacket packet (node.drawId packet.id).1) =
      some (.ok wire)) (sent : sendPacket codec answer node packet wait = some (ret, next)) :
    ∃ after, ((node.drawId packet.id).2.note (.built (node.fillPacket packet (node.drawId packet.id).1)
        (wireKey node.table answer.nodedb (node.fillPacket packet (node.drawId packet.id).1)) wire)).outboundEnqueue
          wire wait answer.radio = (ret, after) ∧
      next = if ret = none then (sendPacketComplete after (node.fillPacket packet (node.drawId packet.id).1) wire
        wait).track answer (node.fillPacket packet (node.drawId packet.id).1) wire else after := by
  have drew : node.Kept (node.drawId packet.id).2 :=
    (node.emits_drawId packet.id : node.Emits (fun _ => False) _).toKept
  have short : ¬packet.payload.length > MAX_PAYLOAD_LEN := Nat.not_lt.mpr (buildWirePacket_eq_ok made).1
  have on : ¬node.initialized = false := by simp [ready]
  have prepared : sendPacketPrepare codec answer.nodedb node packet =
      some (.ok (node.fillPacket packet (node.drawId packet.id).1, wire), (node.drawId packet.id).2.note
        (.built (node.fillPacket packet (node.drawId packet.id).1)
          (wireKey node.table answer.nodedb (node.fillPacket packet (node.drawId packet.id).1)) wire)) := by
    unfold sendPacketPrepare
    rw [if_neg on, if_neg (by simp only [addressed, short, or_self, not_false_eq_true])]
    simp only [drew.fillPacket, drew.table, made]
  unfold sendPacket at sent
  rw [prepared] at sent
  simp only at sent
  split at sent
  next err after queued =>
    cases sent
    exact ⟨next, queued, rfl⟩
  next after queued =>
    cases sent
    exact ⟨after, queued, rfl⟩

theorem sendPacket_emits_of {allowed : Effect → Prop} {node next : Node cfg} {packet : Packet} {wait : Wait}
    {answer : Answer} {ret : Option Errno}
    (quiet : ∀ effect, (∀ local_ key wire, effect ≠ .built local_ key wire) → allowed effect)
    (built : node.initialized = true → ∀ id wire,
      buildWirePacket codec node.table answer.nodedb (node.fillPacket packet id) = some (.ok wire) →
        allowed (.built (node.fillPacket packet id) (wireKey node.table answer.nodedb (node.fillPacket packet id)) wire))
    (sent : sendPacket codec answer node packet wait = some (ret, next)) : node.Emits allowed next := by
  have drew : node.Emits allowed (node.drawId packet.id).2 := node.emits_drawId packet.id
  rcases sendPacket_stages sent with ⟨-, same | drawn⟩ | ⟨wire, after, ready, made, queued, ended⟩
  · rw [same]
    exact Node.Emits.refl node
  · rw [drawn]
    exact drew
  · rw [drew.fillPacket, drew.table] at made
    simp only [drew.fillPacket, drew.table] at queued ended
    apply (drew.note (built ready _ wire made)).trans
    exact sendBuilt_emits (quiet _ (fun _ _ _ => nofun)) (quiet _ (fun _ _ _ => nofun))
      (fun _ => quiet _ (fun _ _ _ => nofun)) queued ended

theorem sendPacket_builds {node next : Node cfg} {packet : Packet} {wait : Wait} {answer : Answer} {wire : Octets}
    {ret : Option Errno} (ready : node.initialized = true) (addressed : packet.to_ ≠ 0)
    (made : buildWirePacket codec node.table answer.nodedb (node.fillPacket packet (node.drawId packet.id).1) =
      some (.ok wire)) (sent : sendPacket codec answer node packet wait = some (ret, next)) :
    .built (node.fillPacket packet (node.drawId packet.id).1)
      (wireKey node.table answer.nodedb (node.fillPacket packet (node.drawId packet.id).1)) wire ∈
        node.newEffects next := by
  obtain ⟨after, queued, ended⟩ := sendPacket_offers ready addressed made sent
  have offered : Node.Emits (fun _ => True) _ after := Node.emits_outboundEnqueue queued (fun _ => trivial)
  have rest : after.Emits (fun _ => True) next := sendEnded_emits trivial (fun _ => trivial) ended
  exact Node.mem_newEffects_note (node.drawId_log packet.id) (offered.trans rest)

theorem sendPacket_transmits {node next : Node cfg} {packet : Packet} {wait : Wait} {answer : Answer}
    (sent : sendPacket codec answer node packet wait = some (none, next)) :
    ∃ wire reports,
      buildWirePacket codec node.table answer.nodedb (node.fillPacket packet (node.drawId packet.id).1) =
        some (.ok wire) ∧
      next.log = (reports ++ [.handed wire, .built (node.fillPacket packet (node.drawId packet.id).1)
        (wireKey node.table answer.nodedb (node.fillPacket packet (node.drawId packet.id).1)) wire]).map
          (Record.mk node.nodeId) ++ node.log ∧
      ∀ effect ∈ reports, effect.quiet = true := by
  have drew : node.Emits (fun effect => effect.quiet = true) (node.drawId packet.id).2 := node.emits_drawId packet.id
  rcases sendPacket_stages sent with ⟨⟨err, failed⟩, -⟩ | ⟨wire, after, -, made, queued, ended⟩
  · cases failed
  rw [drew.fillPacket, drew.table] at made
  rw [drew.fillPacket, drew.table] at queued
  rw [drew.fillPacket] at ended
  rcases Node.outboundEnqueue_cases queued with ⟨-, err, failed⟩ | ⟨handed, -⟩
  · cases failed
  have finished : after.Emits (fun effect => effect.quiet = true) next := sendEnded_emits rfl (fun _ => rfl) ended
  obtain ⟨reports, later, quiet⟩ := finished.log
  refine ⟨wire, reports, made, ?_, quiet⟩
  have same : after.nodeId = node.nodeId := by
    rw [handed]
    exact drew.nodeId
  have grown : after.log = [.handed wire, .built (node.fillPacket packet (node.drawId packet.id).1)
      (wireKey node.table answer.nodedb (node.fillPacket packet (node.drawId packet.id).1)) wire].map
        (Record.mk node.nodeId) ++ node.log := by
    rw [handed, ← node.drawId_log packet.id, ← drew.nodeId]
    rfl
  rw [later, grown, same, List.map_append, List.append_assoc]

end

theorem handed_mem_iff {reports : List Effect} (quiet : ∀ effect ∈ reports, effect.quiet = true) (local_ : Packet)
    (key wire frame : Octets) :
    Effect.handed frame ∈ reports ++ [.handed wire, .built local_ key wire] ↔ frame = wire := by
  rw [List.mem_append]
  constructor
  · intro member
    cases member with
    | inl report => cases quiet _ report
    | inr here => simpa using here
  · intro same
    rw [same]
    exact Or.inr List.mem_cons_self

end Meshtastic
