import Meshtastic.DataCodec
import Meshtastic.NodeRules

/-! Nonces of the node's own encryptions. The nonce is made of the packet id and the source, so
it is as unique as the ids are; the counter behind the ids lives in RAM and starts at 1 in
`meshtastic_init`. -/

namespace Meshtastic
open Bytes

/-- One call of the cipher on the send path. -/
structure Encryption where
  key : Octets
  nonce : Octets
  plain : Octets
  deriving DecidableEq

/-- The encryption behind a built frame. An empty key means cleartext. -/
def Effect.encryption (codec : Codec) : Effect → Option Encryption
  | .built packet key _ =>
    if key = [] then none
    else some ⟨key, packetNonce packet.id packet.from_, codec.encodeData packet.data⟩
  | _ => none

def encryptions (codec : Codec) (log : List Record) : List Encryption :=
  log.filterMap (fun record => record.effect.encryption codec)

/-- No nonce is used under a key for two different plaintexts. -/
def NonceUnique (codec : Codec) (log : List Record) : Prop :=
  ∀ first ∈ encryptions codec log, ∀ second ∈ encryptions codec log,
    first.key = second.key → first.nonce = second.nonce → first.plain = second.plain

section
variable {cfg : Kconfig}

/-- Calls that leave the id to the stack, and restarts of a node that has not encrypted yet. -/
def Request.fillsIds (codec : Codec) (node : Node cfg) : Request cfg → Bool
  | .init _ _ => encryptions codec node.log == []
  | .send packet _ _ => packet.id == 0
  | .phone mesh _ | .inject mesh _ =>
    match mesh.payload with
    | .decoded _ => mesh.id == 0
    | _ => true
  | _ => true

variable {codec : Codec} {board : Board} {request : Request cfg}

theorem mem_encryptions {log : List Record} {encryption : Encryption} (member : encryption ∈ encryptions codec log) :
    ∃ n packet key wire, ⟨n, .built packet key wire⟩ ∈ log ∧ key ≠ [] ∧
      encryption = ⟨key, packetNonce packet.id packet.from_, codec.encodeData packet.data⟩ := by
  obtain ⟨record, present, made⟩ := List.mem_filterMap.mp member
  obtain ⟨n, effect⟩ := record
  cases effect with
  | built packet key wire =>
    simp only [Effect.encryption] at made
    split_ifs at made with clear
    cases made
    exact ⟨n, packet, key, wire, present, clear, rfl⟩
  | _ => contradiction

theorem encryptions_eq_nil {log : List Record} (none : encryptions codec log = []) {n : UInt32} {packet : Packet}
    {key wire : Octets} (member : ⟨n, .built packet key wire⟩ ∈ log) : key = [] := by
  by_contra sealed_
  have present : (⟨key, packetNonce packet.id packet.from_, codec.encodeData packet.data⟩ : Encryption) ∈
      encryptions codec log :=
    List.mem_filterMap.mpr ⟨_, member, if_neg sealed_⟩
  rw [none] at present
  exact List.not_mem_nil present

theorem packetNonce_id {id id' from_ from_' : UInt32} (same : packetNonce id from_ = packetNonce id' from_') :
    id = id' := by
  have word := congrArg (fun octets => octets.take 4) same
  have first : ∀ id from_ : UInt32, (packetNonce id from_).take 4 = le32 id := fun _ _ => rfl
  simp only [first] at word
  exact le32_injective word

/-- The ids of encrypted frames are below the counter and each belongs to one packet. -/
structure Node.Nonces (node : Node cfg) : Prop where
  counter : node.nextPktId.toNat ≤ node.allocated + 1
  below : ∀ n packet key wire, ⟨n, .built packet key wire⟩ ∈ node.log → key ≠ [] →
    packet.id.toNat < node.nextPktId.toNat
  unique : ∀ n packet key wire n' packet' key' wire', ⟨n, .built packet key wire⟩ ∈ node.log →
    ⟨n', .built packet' key' wire'⟩ ∈ node.log → key ≠ [] → key' ≠ [] → packet.id = packet'.id → packet = packet'

theorem Node.powerOn_nonces (table : ChannelTable) : (Node.powerOn cfg table).Nonces where
  counter := Nat.zero_le _
  below := fun _ _ _ _ member => False.elim (List.not_mem_nil member)
  unique := fun _ _ _ _ _ _ _ _ member => False.elim (List.not_mem_nil member)

theorem Node.allocatePacketId_counter {node : Node cfg} (counter : node.nextPktId.toNat ≤ node.allocated + 1)
    (room : node.allocated + 2 < 2 ^ 32) :
    node.nextPktId.toNat ≤ node.allocatePacketId.1.toNat ∧
      node.allocatePacketId.1.toNat < node.allocatePacketId.2.nextPktId.toNat ∧
      node.allocatePacketId.2.nextPktId.toNat ≤ node.allocated + 2 := by
  unfold allocatePacketId
  by_cases zero : node.nextPktId = 0
  · simp only [zero, if_true]
    have one : (0 + 1 : UInt32).toNat = 1 := by decide
    have two : (0 + 1 + 1 : UInt32).toNat = 2 := by decide
    have none : (0 : UInt32).toNat = 0 := by decide
    omega
  · simp only [zero, if_false]
    have next : (node.nextPktId + 1).toNat = node.nextPktId.toNat + 1 := by
      rw [UInt32.toNat_add]
      have one : (1 : UInt32).toNat = 1 := by decide
      omega
    omega

theorem Node.allocatePacketId_allocated (node : Node cfg) :
    node.allocatePacketId.2.allocated = node.allocated + 1 := by
  unfold allocatePacketId
  by_cases zero : node.nextPktId = 0
  · simp [zero]
  · simp [zero]

theorem Node.Nonces.same {node next : Node cfg} (holds : node.Nonces) (same : node.SameSends next) :
    next.Nonces where
  counter := by
    rw [same.nextPktId, same.allocated]
    exact holds.counter
  below := by
    intro n packet key wire member sealed_
    rw [same.nextPktId]
    exact holds.below n packet key wire (same.built _ _ _ _ member) sealed_
  unique := by
    intro n packet key wire n' packet' key' wire' member member'
    exact holds.unique n packet key wire n' packet' key' wire' (same.built _ _ _ _ member) (same.built _ _ _ _ member')

theorem Node.Nonces.build {node : Node cfg} (holds : node.Nonces) (room : node.allocated + 2 < 2 ^ 32)
    {packet : Packet} (drew : packet.id = node.allocatePacketId.1) (key wire : Octets) :
    (node.allocatePacketId.2.note (.built packet key wire)).Nonces := by
  obtain ⟨above, past, bound⟩ := node.allocatePacketId_counter holds.counter room
  obtain ⟨nextPktId, allocated, fields⟩ := node.drawId_node 0
  rw [node.allocatePacketId_eq] at fields
  have log : node.allocatePacketId.2.log = node.log := by rw [fields]
  have older : ∀ {n : UInt32} {other : Packet} {key' wire' : Octets},
      ⟨n, .built other key' wire'⟩ ∈ node.log → key' ≠ [] → other.id.toNat < packet.id.toNat := by
    intro n other key' wire' member sealed_
    have before := holds.below _ _ _ _ member sealed_
    rw [drew]
    omega
  refine ⟨?_, ?_, ?_⟩
  · show node.allocatePacketId.2.nextPktId.toNat ≤ node.allocatePacketId.2.allocated + 1
    rw [node.allocatePacketId_allocated]
    exact bound
  · intro n other key' wire' member sealed_
    show other.id.toNat < node.allocatePacketId.2.nextPktId.toNat
    rcases List.mem_cons.mp member with here | before
    · cases here
      rw [drew]
      exact past
    · have less := older (log ▸ before) sealed_
      rw [drew] at less
      omega
  · intro n first key' wire' n' second key'' wire'' member member' sealed_ sealed' same
    rcases List.mem_cons.mp member with here | before
    · rcases List.mem_cons.mp member' with here' | before'
      · cases here
        cases here'
        rfl
      · cases here
        have less := older (log ▸ before') sealed'
        rw [same] at less
        omega
    · rcases List.mem_cons.mp member' with here' | before'
      · cases here'
        have less := older (log ▸ before) sealed_
        rw [same] at less
        omega
      · exact holds.unique _ _ _ _ _ _ _ _ (log ▸ before) (log ▸ before') sealed_ sealed' same

theorem Node.Nonces.init {node next : Node cfg} {config : NodeConfig} {boot : Boot} {ret : Option Errno}
    (holds : node.Nonces) (fresh : encryptions codec node.log = [])
    (done : meshtasticInit board node config boot = some (ret, next)) : next.Nonces := by
  have log := meshtasticInit_log done
  have clear : ∀ n packet key wire, ⟨n, .built packet key wire⟩ ∈ next.log → key = [] := by
    intro n packet key wire member
    rw [log] at member
    exact encryptions_eq_nil fresh member
  have counter : next.nextPktId.toNat ≤ next.allocated + 1 := by
    have one : (1 : UInt32).toNat = 1 := by decide
    rcases meshtasticInit_cases done with same | ⟨nodeId, err, -, same⟩ |
      ⟨nodeId, table, hopLimit, positive, -, same | same⟩
    · rw [same]
      exact holds.counter
    · rw [same]
      exact holds.counter
    · rw [same]
      show (1 : UInt32).toNat ≤ node.allocated + 1
      omega
    · rw [same]
      show (1 : UInt32).toNat ≤ node.allocated + 1
      omega
  refine ⟨counter, ?_, ?_⟩
  · intro n packet key wire member sealed_
    exact False.elim (sealed_ (clear _ _ _ _ member))
  · intro n packet key wire n' packet' key' wire' member member' sealed_
    exact False.elim (sealed_ (clear _ _ _ _ member))

theorem Node.Origin.given {node start : Node cfg} {packet : Packet} {given : UInt32}
    (origin : node.Origin codec request packet given) (permitted : request.fillsIds codec start = true) :
    given = 0 := by
  cases origin with
  | send asked =>
    subst asked
    simpa [Request.fillsIds] using permitted
  | phone asked payload =>
    subst asked
    simpa [Request.fillsIds, payload] using permitted
  | inject asked payload onward hops =>
    subst asked
    simpa [Request.fillsIds, payload] using permitted
  | ack heard toUs foreign => rfl
  | module unsent port => rfl

theorem meshtasticInit_allocated {node next : Node cfg} {config : NodeConfig} {boot : Boot} {ret : Option Errno}
    (done : meshtasticInit board node config boot = some (ret, next)) : next.allocated = node.allocated := by
  rcases meshtasticInit_cases done with same | ⟨nodeId, err, -, same⟩ |
    ⟨nodeId, table, hopLimit, positive, -, same | same⟩
  all_goals
    rw [same]
    try rfl

theorem Node.Nonces.change {node next : Node cfg} (holds : node.allocated < 2 ^ 32 - 1 → node.Nonces)
    (change : Node.Change codec board request node next)
    (open_ : ∀ packet given, node.Origin codec request packet given → given = 0)
    (running : request.isInit = false) (few : next.allocated < 2 ^ 32 - 1) : next.Nonces := by
  have drawn := node.allocatePacketId_allocated
  rcases change.send_cases with same | drew | ⟨packet, key, wire, after, builds, same⟩ | ⟨_, _, _, asked, -⟩
  · rw [same.allocated] at few
    exact (holds few).same same
  · -- an id drawn in vain
    rw [drew, drawn] at few
    have before := holds (by omega)
    obtain ⟨above, past, bound⟩ := node.allocatePacketId_counter before.counter (by omega)
    have log : next.log = node.log := by rw [drew, ← node.allocatePacketId_eq, node.drawId_log]
    refine ⟨?_, ?_, ?_⟩
    · rw [drew, drawn]
      exact bound
    · intro n packet key wire member sealed_
      have less := before.below _ _ _ _ (log ▸ member) sealed_
      rw [drew]
      omega
    · rw [log]
      exact before.unique
  · obtain ⟨asked, given, id, nodedb, origin, -, draws, filled, -, -⟩ := builds
    rw [open_ asked given origin, node.allocatePacketId_eq] at draws
    have first : id = node.allocatePacketId.1 := by rw [draws]
    have second : after = node.allocatePacketId.2 := by rw [draws]
    rw [same, second] at few ⊢
    have room : node.allocatePacketId.2.allocated < 2 ^ 32 - 1 := few
    rw [drawn] at room
    refine (holds (by omega)).build (by omega) ?_ key wire
    rw [filled, ← first]
    rfl
  · subst asked
    contradiction

/-- In every run in which the stack fills in all ids and the node is not initialised again once it has
encrypted a packet, no nonce is used for two plaintexts. -/
theorem nonces_unique (cfg : Kconfig) (codec : Codec) (board : Board) (table : ChannelTable)
    (requests : List (Request cfg)) (last : Node cfg)
    (permitted : Transition.Guarded (Node.step codec board)
      (fun node request => request.fillsIds codec node = true) (Node.powerOn cfg table) requests)
    (whole : Transition.run (Node.step codec board) (Node.powerOn cfg table) requests = some last)
    (few : last.allocated < 2 ^ 32 - 1) : NonceUnique codec last.log := by
  have holds : last.allocated < 2 ^ 32 - 1 → last.Nonces := by
    refine Node.run_invariant (fun node => node.allocated < 2 ^ 32 - 1 → node.Nonces) ?_ ?_
      (fun _ => Node.powerOn_nonces table) permitted whole
    · intro start config boot ret next allowed done before bound
      have fresh : encryptions codec start.log = [] := by simpa [Request.fillsIds] using allowed
      exact (before (meshtasticInit_allocated done ▸ bound)).init fresh done
    · intro request start node next allowed running _ change before bound
      exact Node.Nonces.change before change (fun _ _ origin => origin.given allowed) running bound
  intro first member second member' _ nonce
  obtain ⟨n, packet, key, wire, present, sealed_, here⟩ := mem_encryptions member
  obtain ⟨n', packet', key', wire', present', sealed', here'⟩ := mem_encryptions member'
  subst here
  subst here'
  have same := (holds few).unique _ _ _ _ _ _ _ _ present present' sealed_ sealed' (packetNonce_id nonce)
  rw [same]

end

theorem nonces_unique_oneBoot :
    ∃ last, Transition.run (Node.step (dataCodec fun _ _ _ => 0) plainBoard) (Node.powerOn smallKconfig coldTable)
        [.init plainNodeConfig plainBoot, .send { greeting with from_ := 0, id := 0 } .forever plainAnswer,
          .send { greeting with from_ := 0, id := 0, payload := [0x6e, 0x6f] } .noWait plainAnswer] = some last ∧
      (encryptions (dataCodec fun _ _ _ => 0) last.log).length = 2 ∧
      NonceUnique (dataCodec fun _ _ _ => 0) last.log := by
  refine ⟨_, rfl, by decide, ?_⟩
  exact nonces_unique smallKconfig (dataCodec fun _ _ _ => 0) plainBoard coldTable
    [.init plainNodeConfig plainBoot, .send { greeting with from_ := 0, id := 0 } .forever plainAnswer,
      .send { greeting with from_ := 0, id := 0, payload := [0x6e, 0x6f] } .noWait plainAnswer] _ (by decide) rfl
    (by decide)

/-- After a restart the counter gives the id 1 again, to another message under the same key. -/
theorem nonce_reused_after_restart :
    ∃ last, Transition.run (Node.step (dataCodec fun _ _ _ => 0) plainBoard) (Node.powerOn smallKconfig coldTable)
        [.init plainNodeConfig plainBoot, .send { greeting with from_ := 0, id := 0 } .forever plainAnswer,
          .init plainNodeConfig plainBoot,
          .send { greeting with from_ := 0, id := 0, payload := [0x6e, 0x6f] } .forever plainAnswer] = some last ∧
      last.allocated = 2 ∧ ¬NonceUnique (dataCodec fun _ _ _ => 0) last.log := by
  refine ⟨_, rfl, by decide, ?_⟩
  unfold NonceUnique
  decide

end Meshtastic
