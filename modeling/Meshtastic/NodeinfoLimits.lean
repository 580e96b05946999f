import Meshtastic.Reactions
import Meshtastic.Lib.Recency
import Meshtastic.Lib.Run

/-! How often the NodeInfo module asks and answers one node. Both handlers share a small table of peers
from which the one heard longest ago is dropped; as long as a node is in it, its last question, its last
answer and whether its User was seen are remembered. -/

namespace Meshtastic
open Bytes

/-! ## The peer table as a cache -/

def NodeinfoPeer.held (peer : NodeinfoPeer) : Option UInt32 := if peer.node = 0 then none else some peer.node

theorem NodeinfoPeer.held_eq_some {peer : NodeinfoPeer} {node : UInt32} :
    peer.held = some node ↔ peer.node = node ∧ node ≠ 0 := by
  unfold NodeinfoPeer.held
  split_ifs with free
  · constructor
    · nofun
    · intro both
      exact absurd (both.1.symm.trans free) both.2
  · rw [Option.some.injEq]
    constructor
    · intro same
      exact ⟨same, same ▸ free⟩
    · exact And.left

theorem NodeinfoPeer.held_ne_none {peer : NodeinfoPeer} : peer.held ≠ none ↔ peer.node ≠ 0 := by
  unfold NodeinfoPeer.held
  split_ifs with free
  · exact ⟨fun some => absurd rfl some, fun some => absurd free some⟩
  · exact ⟨fun _ => free, fun _ => nofun⟩

section
variable {size : Nat} {peers : Fin size → NodeinfoPeer} {node : UInt32}

theorem nodeinfoPeerFind_ends (peers : Fin size → NodeinfoPeer) (node : UInt32) (rest : List (Fin size))
    (oldest : Fin size) :
    ((nodeinfoPeerFind peers node rest oldest).2 = true ∧
      (peers (nodeinfoPeerFind peers node rest oldest).1).node = node) ∨
    ((nodeinfoPeerFind peers node rest oldest).2 = false ∧
      (peers (nodeinfoPeerFind peers node rest oldest).1).node = 0 ∧
      ∃ before after, rest = before ++ (nodeinfoPeerFind peers node rest oldest).1 :: after ∧
        ∀ j ∈ before, (peers j).node ≠ node ∧ (peers j).node ≠ 0) ∨
    ((nodeinfoPeerFind peers node rest oldest).2 = false ∧
      (∀ j ∈ rest, (peers j).node ≠ node ∧ (peers j).node ≠ 0) ∧
      ∀ j ∈ oldest :: rest, (peers (nodeinfoPeerFind peers node rest oldest).1).lastSeenMs ≤ (peers j).lastSeenMs) := by
  induction rest generalizing oldest with
  | nil =>
    refine Or.inr (Or.inr ⟨rfl, fun _ none => absurd none List.not_mem_nil, ?_⟩)
    intro j here
    rw [List.mem_singleton.mp here]
    exact Int.le_refl _
  | cons i rest ih =>
    unfold nodeinfoPeerFind
    by_cases found : (peers i).node = node
    · simp only [if_pos found]
      exact Or.inl ⟨trivial, found⟩
    simp only [if_neg found]
    by_cases free : (peers i).node = 0
    · simp only [if_pos free]
      exact Or.inr (Or.inl ⟨trivial, free, [], rest, rfl, fun _ none => absurd none List.not_mem_nil⟩)
    simp only [if_neg free]
    generalize next : (if (peers i).lastSeenMs < (peers oldest).lastSeenMs then i else oldest) = kept
    have least : (peers kept).lastSeenMs ≤ (peers i).lastSeenMs ∧ (peers kept).lastSeenMs ≤ (peers oldest).lastSeenMs := by
      rw [← next]
      split_ifs <;> omega
    cases ih kept with
    | inl hit => exact Or.inl hit
    | inr others =>
      cases others with
      | inl empty =>
        obtain ⟨new, isFree, before, after, split, taken⟩ := empty
        refine Or.inr (Or.inl ⟨new, isFree, i :: before, after, by rw [List.cons_append, ← split], ?_⟩)
        exact List.forall_mem_cons.mpr ⟨⟨found, free⟩, taken⟩
      | inr full =>
        obtain ⟨new, taken, below⟩ := full
        obtain ⟨kept_le, later_le⟩ := List.forall_mem_cons.mp below
        refine Or.inr (Or.inr ⟨new, List.forall_mem_cons.mpr ⟨⟨found, free⟩, taken⟩, ?_⟩)
        refine List.forall_mem_cons.mpr ⟨?_, List.forall_mem_cons.mpr ⟨?_, later_le⟩⟩
        · exact Int.le_trans kept_le least.2
        · exact Int.le_trans kept_le least.1

/-- Free entries stand behind the taken ones. -/
def Packed (peers : Fin size → NodeinfoPeer) : Prop := ∀ i j, i ≤ j → (peers i).node = 0 → (peers j).node = 0

/-- Where `peer_get_locked` puts a node; a free entry it takes is the first one. -/
theorem nodeinfoPeerFind_places {now : Int} (positive : 0 < size) (packed : Packed peers)
    (valid : Recency.Valid NodeinfoPeer.held NodeinfoPeer.lastSeenMs now peers) (given : node ≠ 0) :
    let found := nodeinfoPeerFind peers node (List.finRange size) ⟨0, positive⟩
    Recency.Places NodeinfoPeer.held NodeinfoPeer.lastSeenMs peers node found.1 ∧
      ((peers found.1).node = 0 → ∀ j, j < found.1 → (peers j).node ≠ 0) ∧
      (found.2 = true ↔ (peers found.1).node = node) := by
  intro found
  have all : ∀ j, j ∈ List.finRange size := List.mem_finRange
  cases nodeinfoPeerFind_ends peers node (List.finRange size) ⟨0, positive⟩ with
  | inl hit =>
    obtain ⟨known, here⟩ := hit
    have mine : (peers found.1).held = some node := NodeinfoPeer.held_eq_some.mpr ⟨here, given⟩
    refine ⟨⟨fun i own => valid.distinct i found.1 node own mine, ?_⟩, ?_, iff_of_true known here⟩
    · intro other present different
      exact absurd (Option.some.inj (present.symm.trans mine)) different
    · intro free
      exact absurd (here.symm.trans free) given
  | inr missing =>
    cases missing with
    | inl empty =>
      obtain ⟨unknown, free, before, after, split, taken⟩ := empty
      have sorted := List.pairwise_lt_finRange size
      rw [split] at sorted
      have behind : ∀ j ∈ after, found.1 < j := (List.pairwise_cons.mp (List.pairwise_append.mp sorted).2.1).1
      have places : ∀ j, j ∈ before ∨ found.1 ≤ j := by
        intro j
        have listed := all j
        rw [split, List.mem_append, List.mem_cons] at listed
        cases listed with
        | inl early => exact Or.inl early
        | inr late =>
          cases late with
          | inl here => exact Or.inr (Fin.le_of_eq here.symm)
          | inr later => exact Or.inr (Fin.le_of_lt (behind j later))
      refine ⟨⟨?_, ?_⟩, ?_, ?_⟩
      · intro i own
        have named := (NodeinfoPeer.held_eq_some.mp own).1
        cases places i with
        | inl early => exact absurd named (taken i early).1
        | inr late => exact absurd (named.symm.trans (packed found.1 i late free)) given
      · intro other present _
        exact absurd free (NodeinfoPeer.held_ne_none.mp (by rw [present]; nofun))
      · intro _ j smaller
        cases places j with
        | inl early => exact (taken j early).2
        | inr late => exact absurd smaller (Fin.not_lt.mpr late)
      · refine iff_of_false (fun known => absurd (unknown.symm.trans known) nofun) ?_
        intro here
        exact given (here.symm.trans free)
    | inr full =>
      obtain ⟨unknown, taken, least⟩ := full
      refine ⟨⟨?_, ?_⟩, ?_, ?_⟩
      · intro i own
        exact absurd (NodeinfoPeer.held_eq_some.mp own).1 (taken i (all i)).1
      · intro other _ _ i
        exact ⟨NodeinfoPeer.held_ne_none.mpr (taken i (all i)).2, least i (List.mem_cons_of_mem _ (all i))⟩
      · intro free
        exact absurd free (taken found.1 (all found.1)).2
      · exact iff_of_false (fun known => absurd (unknown.symm.trans known) nofun) (taken found.1 (all found.1)).1

end

/-! ## Calls -/

inductive NodeinfoCall where
  | packet (outside : ModuleOutside) (primaryIndex : UInt8) (packet : Packet)
  | request (outside : ModuleOutside) (req : Packet)

namespace NodeinfoCall

def time : NodeinfoCall → Int
  | .packet outside _ _ => outside.heardAt
  | .request outside _ => outside.nodeinfoAt

def source : NodeinfoCall → Packet
  | .packet _ _ heard => heard
  | .request _ req => req

end NodeinfoCall

section
variable {mod : ModuleKconfig} (nodeId : UInt32)

def ModuleState.nodeinfoCall (state : ModuleState mod) : NodeinfoCall → ModuleState mod × Option ModulePacket
  | .packet outside primaryIndex packet => nodeinfoOnPacket outside nodeId primaryIndex state packet
  | .request outside req =>
    let answered := nodeinfoAllocReply outside nodeId state req
    (answered.1, answered.2.toOption)

def nodeinfoAfter (calls : List NodeinfoCall) : ModuleState mod :=
  (Transition.answers (ModuleState.nodeinfoCall nodeId) {} calls).1

def ModuleState.Probes (state : ModuleState mod) (call : NodeinfoCall) (node : UInt32) : Prop :=
  match call with
  | .packet .. => ∃ probe, (state.nodeinfoCall nodeId call).2 = some probe ∧ probe.packet.to_ = node
  | .request .. => False

def ModuleState.Replies (state : ModuleState mod) (call : NodeinfoCall) (node : UInt32) : Prop :=
  match call with
  | .packet .. => False
  | .request .. => ∃ reply, (state.nodeinfoCall nodeId call).2 = some reply ∧ reply.packet.to_ = node

def NodeinfoCall.DecodesUser (call : NodeinfoCall) (node : UInt32) : Prop :=
  match call with
  | .packet outside _ heard =>
    strangeSource nodeId heard = false ∧ heard.from_ = node ∧ heard.portnum = PORT_NODEINFO ∧
      packetDecodeUser outside.decodesUser heard = true
  | .request .. => False

def heardNodes (calls : List NodeinfoCall) : List UInt32 :=
  ((calls.map NodeinfoCall.source).filter (fun packet => !strangeSource nodeId packet)).map Packet.from_

def othersHeard (node : UInt32) (calls : List NodeinfoCall) : Finset UInt32 :=
  (heardNodes nodeId calls).toFinset.erase node

end

/-! ## What one call does -/

section
variable {mod : ModuleKconfig} {nodeId : UInt32} {state : ModuleState mod} {call : NodeinfoCall} {now : Int}

structure NodeinfoCall.Takes (nodeId : UInt32) (state : ModuleState mod) (call : NodeinfoCall)
    (peer entry : NodeinfoPeer) : Prop where
  node : entry.node = peer.node
  seen : entry.lastSeenMs = peer.lastSeenMs
  user : peer.hasUser = true → entry.hasUser = true
  request : entry.requestTimeValid = peer.requestTimeValid ∧ entry.lastRequestMs = peer.lastRequestMs ∨
    entry.requestTimeValid = true ∧ entry.lastRequestMs = call.time
  reply : entry.replyTimeValid = peer.replyTimeValid ∧ entry.lastReplyMs = peer.lastReplyMs ∨
    entry.replyTimeValid = true ∧ entry.lastReplyMs = call.time
  decodes : ∀ node, call.DecodesUser nodeId node → entry.hasUser = true
  probes : ∀ node, state.Probes nodeId call node → node = call.source.from_ ∧ peer.hasUser = false ∧
    intervalElapsed peer.requestTimeValid peer.lastRequestMs call.time
      (mod.nodeinfoUnknownSuppressSec * MSEC_PER_SEC) = true ∧
    entry.requestTimeValid = true ∧ entry.lastRequestMs = call.time
  replies : ∀ node, state.Replies nodeId call node → node = call.source.from_ ∧
    intervalElapsed peer.replyTimeValid peer.lastReplyMs call.time
      (mod.nodeinfoReplySuppressSec * MSEC_PER_SEC) = true ∧
    entry.replyTimeValid = true ∧ entry.lastReplyMs = call.time

theorem nodeinfoBuildPacket_to {dest : UInt32} {wantResponse : Bool} {channel : UInt8} {responseToId : UInt32}
    {user : Octets} {made : ModulePacket}
    (built : (nodeinfoBuildPacket dest wantResponse channel responseToId user).toOption = some made) :
    made.packet.to_ = dest := by
  unfold nodeinfoBuildPacket at built
  cases encoded : encodePayload user with
  | error err =>
    rw [encoded] at built
    cases built
  | ok payload =>
    rw [encoded] at built
    cases built
    rfl

theorem nodeinfoCall_strange (strange : strangeSource nodeId call.source = true) :
    state.nodeinfoCall nodeId call = (state, none) := by
  cases call with
  | packet outside primaryIndex heard => exact if_pos strange
  | request outside req =>
    have refused : nodeinfoAllocReply outside nodeId state req = (state, .error .einval) := if_pos strange
    simp only [ModuleState.nodeinfoCall, refused]
    rfl

variable (state)

theorem nodeinfoOnPacket_takes {outside : ModuleOutside} {primaryIndex : UInt8} {heard : Packet}
    (ordinary : strangeSource nodeId heard = false) :
    ∃ entry, (nodeinfoOnPacket outside nodeId primaryIndex state heard).1 =
        state.withNodeinfoPeer (state.nodeinfoPeer heard.from_ outside.heardAt).1 entry ∧
      (NodeinfoCall.packet outside primaryIndex heard).Takes nodeId state
        (state.nodeinfoPeer heard.from_ outside.heardAt).2 entry := by
  have unfolded : nodeinfoOnPacket outside nodeId primaryIndex state heard = _ :=
    if_neg (Bool.not_eq_true _ ▸ ordinary)
  have decoded : ∀ node, (NodeinfoCall.packet outside primaryIndex heard).DecodesUser nodeId node →
      (decide (heard.portnum = PORT_NODEINFO) && packetDecodeUser outside.decodesUser heard) = true := by
    intro node decodes
    rw [Bool.and_eq_true, decide_eq_true_eq]
    exact decodes.2.2
  generalize state.nodeinfoPeer heard.from_ outside.heardAt = found at unfolded ⊢
  obtain ⟨i, peer⟩ := found
  generalize (if heard.channelIndex ≠ CHANNEL_INDEX_INVALID then heard.channelIndex else primaryIndex) = channel
    at unfolded
  simp only at unfolded
  split_ifs at unfolded with asks
  · rw [Bool.and_eq_true, Bool.and_eq_true, Bool.not_eq_true', Bool.or_eq_false_iff] at asks
    refine ⟨_, congrArg Prod.fst unfolded, rfl, rfl, ?_, Or.inr ⟨rfl, rfl⟩, Or.inl ⟨rfl, rfl⟩, ?_, ?_, fun _ => nofun⟩
    · intro known
      exact (Bool.or_eq_true _ _).mpr (Or.inl known)
    · intro node decodes
      exact (Bool.or_eq_true _ _).mpr (Or.inr (decoded node decodes))
    · intro node probes
      obtain ⟨probe, made, destination⟩ := probes
      simp only [ModuleState.nodeinfoCall, unfolded] at made
      exact ⟨destination.symm.trans (nodeinfoBuildPacket_to made), asks.1.1.1, asks.2, rfl, rfl⟩
  · refine ⟨_, congrArg Prod.fst unfolded, rfl, rfl, ?_, Or.inl ⟨rfl, rfl⟩, Or.inl ⟨rfl, rfl⟩, ?_, ?_, fun _ => nofun⟩
    · intro known
      exact (Bool.or_eq_true _ _).mpr (Or.inl known)
    · intro node decodes
      exact (Bool.or_eq_true _ _).mpr (Or.inr (decoded node decodes))
    · intro node probes
      obtain ⟨probe, made, -⟩ := probes
      simp only [ModuleState.nodeinfoCall, unfolded] at made
      cases made

theorem nodeinfoAllocReply_takes {outside : ModuleOutside} {req : Packet} (ordinary : strangeSource nodeId req = false) :
    ∃ entry, (nodeinfoAllocReply outside nodeId state req).1 =
        state.withNodeinfoPeer (state.nodeinfoPeer req.from_ outside.nodeinfoAt).1 entry ∧
      (NodeinfoCall.request outside req).Takes nodeId state
        (state.nodeinfoPeer req.from_ outside.nodeinfoAt).2 entry := by
  have unfolded : nodeinfoAllocReply outside nodeId state req = _ := if_neg (Bool.not_eq_true _ ▸ ordinary)
  generalize state.nodeinfoPeer req.from_ outside.nodeinfoAt = found at unfolded ⊢
  obtain ⟨i, peer⟩ := found
  simp only at unfolded
  split_ifs at unfolded with elapsed
  · refine ⟨_, congrArg Prod.fst unfolded, rfl, rfl, id, Or.inl ⟨rfl, rfl⟩, Or.inr ⟨rfl, rfl⟩, fun _ => nofun,
      fun _ => nofun, ?_⟩
    intro node replies
    obtain ⟨reply, made, destination⟩ := replies
    simp only [ModuleState.nodeinfoCall, unfolded] at made
    exact ⟨destination.symm.trans (nodeinfoBuildPacket_to made), elapsed, rfl, rfl⟩
  · refine ⟨_, congrArg Prod.fst unfolded, rfl, rfl, id, Or.inl ⟨rfl, rfl⟩, Or.inl ⟨rfl, rfl⟩, fun _ => nofun,
      fun _ => nofun, ?_⟩
    intro node replies
    obtain ⟨reply, made, -⟩ := replies
    simp only [ModuleState.nodeinfoCall, unfolded] at made
    cases made

theorem nodeinfoCall_takes (ordinary : strangeSource nodeId call.source = false) :
    ∃ entry, (state.nodeinfoCall nodeId call).1 =
        state.withNodeinfoPeer (state.nodeinfoPeer call.source.from_ call.time).1 entry ∧
      call.Takes nodeId state (state.nodeinfoPeer call.source.from_ call.time).2 entry := by
  cases call with
  | packet outside primaryIndex heard => exact nodeinfoOnPacket_takes state ordinary
  | request outside req => exact nodeinfoAllocReply_takes state ordinary

variable {state}

/-! ## Runs -/

/-- What holds of the peer table at every moment. -/
structure PeersKept {size : Nat} (now : Int) (peers : Fin size → NodeinfoPeer) : Prop where
  valid : Recency.Valid NodeinfoPeer.held NodeinfoPeer.lastSeenMs now peers
  packed : Packed peers

/-- Where a node's peer is put, and what the handler starts from there. -/
structure Located {size : Nat} (peers : Fin size → NodeinfoPeer) (node : UInt32) (now : Int)
    (found : Fin size × NodeinfoPeer) : Prop where
  places : Recency.Places NodeinfoPeer.held NodeinfoPeer.lastSeenMs peers node found.1
  firstFree : (peers found.1).node = 0 → ∀ j, j < found.1 → (peers j).node ≠ 0
  named : found.2.node = node
  seen : found.2.lastSeenMs = now
  hit : (peers found.1).node = node → found.2 = { peers found.1 with lastSeenMs := now }

theorem nodeinfoPeer_located {node : UInt32} {before : Int} (kept : PeersKept before state.nodeinfoPeers)
    (given : node ≠ 0) : Located state.nodeinfoPeers node now (state.nodeinfoPeer node now) := by
  have positive : 0 < mod.nodeinfoPeerCacheSize := Nat.lt_of_lt_of_le (by decide) mod.nodeinfoPeerCacheSize_range.1
  obtain ⟨places, firstFree, known⟩ := nodeinfoPeerFind_places positive kept.packed kept.valid given
  unfold ModuleState.nodeinfoPeer nodeinfoPeerGet
  generalize nodeinfoPeerFind state.nodeinfoPeers node (List.finRange _) ⟨0, positive⟩ = found at *
  obtain ⟨i, isKnown⟩ := found
  cases isKnown with
  | true => exact ⟨places, firstFree, known.mp rfl, rfl, fun _ => rfl⟩
  | false => exact ⟨places, firstFree, rfl, rfl, fun here => absurd (known.mpr here) nofun⟩

theorem strangeSource_eq_false {packet : Packet} (ordinary : strangeSource nodeId packet = false) :
    packet.from_ ≠ 0 := by
  simp only [strangeSource, Bool.or_eq_false_iff, decide_eq_false_iff_not] at ordinary
  exact ordinary.1

theorem nodeinfoCall_writes (kept : PeersKept now state.nodeinfoPeers)
    (ordinary : strangeSource nodeId call.source = false) :
    ∃ place entry, (state.nodeinfoCall nodeId call).1.nodeinfoPeers = Function.update state.nodeinfoPeers place entry ∧
      Recency.Places NodeinfoPeer.held NodeinfoPeer.lastSeenMs state.nodeinfoPeers call.source.from_ place ∧
      ((state.nodeinfoPeers place).node = 0 → ∀ j, j < place → (state.nodeinfoPeers j).node ≠ 0) ∧
      entry.held = some call.source.from_ ∧ entry.lastSeenMs = call.time ∧
      ∃ peer, call.Takes nodeId state peer entry ∧
        ((state.nodeinfoPeers place).held = some call.source.from_ →
          peer = { state.nodeinfoPeers place with lastSeenMs := call.time }) := by
  have given := strangeSource_eq_false ordinary
  have located : Located state.nodeinfoPeers call.source.from_ call.time _ := nodeinfoPeer_located kept given
  obtain ⟨entry, written, takes⟩ := nodeinfoCall_takes state ordinary
  refine ⟨_, entry, congrArg ModuleState.nodeinfoPeers written, located.places, located.firstFree, ?_, ?_, _, takes, ?_⟩
  · exact NodeinfoPeer.held_eq_some.mpr ⟨takes.node.trans located.named, given⟩
  · exact takes.seen.trans located.seen
  · exact fun mine => located.hit (NodeinfoPeer.held_eq_some.mp mine).1

theorem Packed.update {size : Nat} {peers : Fin size → NodeinfoPeer} {place : Fin size} {entry : NodeinfoPeer}
    (packed : Packed peers) (firstFree : (peers place).node = 0 → ∀ j, j < place → (peers j).node ≠ 0)
    (taken : entry.node ≠ 0) : Packed (Function.update peers place entry) := by
  intro i j order free
  by_cases here : i = place
  · rw [here, Function.update_self] at free
    exact absurd free taken
  rw [Function.update_of_ne here] at free
  by_cases there : j = place
  · have freePlace := packed i place (there ▸ order) free
    exact absurd free (firstFree freePlace i (lt_of_le_of_ne (there ▸ order) here))
  · rw [Function.update_of_ne there]
    exact packed i j order free

theorem PeersKept.mono (kept : PeersKept now state.nodeinfoPeers) {later : Int} (order : now ≤ later) :
    PeersKept later state.nodeinfoPeers :=
  ⟨⟨kept.valid.distinct, fun i taken => Int.le_trans (kept.valid.past i taken) order⟩, kept.packed⟩

theorem PeersKept.next (kept : PeersKept now state.nodeinfoPeers) (later : now < call.time) :
    PeersKept call.time (state.nodeinfoCall nodeId call).1.nodeinfoPeers := by
  cases strange : strangeSource nodeId call.source with
  | true =>
    rw [nodeinfoCall_strange strange]
    exact kept.mono (Int.le_of_lt later)
  | false =>
    obtain ⟨place, entry, written, places, firstFree, held, seen, -⟩ := nodeinfoCall_writes kept strange
    rw [written]
    exact ⟨kept.valid.touch later places held seen,
      kept.packed.update firstFree (NodeinfoPeer.held_ne_none.mp (by rw [held]; nofun))⟩

theorem heardNodes_cons (call : NodeinfoCall) (calls : List NodeinfoCall) :
    heardNodes nodeId (call :: calls) =
      (if strangeSource nodeId call.source then [] else [call.source.from_]) ++ heardNodes nodeId calls := by
  unfold heardNodes
  cases strange : strangeSource nodeId call.source <;> simp [strange]

def Lasting (mod : ModuleKconfig) (nodeId : UInt32) (start : Int) (good : NodeinfoPeer → Prop) : Prop :=
  ∀ (state : ModuleState mod) (call : NodeinfoCall) (old entry : NodeinfoPeer), start < call.time →
    call.Takes nodeId state { old with lastSeenMs := call.time } entry → good old → good entry

variable {good : NodeinfoPeer → Prop} {start : Int} {own : UInt32} {heard : List UInt32}

theorem since_next (lasting : Lasting mod nodeId start good) (kept : PeersKept now state.nodeinfoPeers)
    (begun : start < call.time)
    (since : Recency.Since NodeinfoPeer.held NodeinfoPeer.lastSeenMs own start good heard state.nodeinfoPeers) :
    Recency.Since NodeinfoPeer.held NodeinfoPeer.lastSeenMs own start good
      (heard ++ if strangeSource nodeId call.source then [] else [call.source.from_])
      (state.nodeinfoCall nodeId call).1.nodeinfoPeers := by
  cases strange : strangeSource nodeId call.source with
  | true =>
    rw [nodeinfoCall_strange strange, if_pos rfl, List.append_nil]
    exact since
  | false =>
    obtain ⟨place, entry, written, places, -, held, seen, peer, takes, hit⟩ := nodeinfoCall_writes kept strange
    rw [written, if_neg Bool.false_ne_true]
    apply since.touch kept.valid (Int.le_of_lt begun) places held seen
    intro same mine isGood
    rw [hit (mine.trans (congrArg some same.symm))] at takes
    exact lasting state call _ entry begun takes isGood

theorem since_run (lasting : Lasting mod nodeId start good) (calls rest : List NodeinfoCall)
    (kept : PeersKept now state.nodeinfoPeers) (begun : start ≤ now)
    (increasing : (calls ++ rest).Pairwise fun a b => a.time < b.time) (later : ∀ call ∈ calls ++ rest, now < call.time)
    (since : Recency.Since NodeinfoPeer.held NodeinfoPeer.lastSeenMs own start good heard state.nodeinfoPeers) :
    ∃ then_, PeersKept then_ (Transition.answers (ModuleState.nodeinfoCall nodeId) state calls).1.nodeinfoPeers ∧
      (∀ call ∈ rest, then_ < call.time) ∧
      Recency.Since NodeinfoPeer.held NodeinfoPeer.lastSeenMs own start good (heard ++ heardNodes nodeId calls)
        (Transition.answers (ModuleState.nodeinfoCall nodeId) state calls).1.nodeinfoPeers := by
  induction calls generalizing state now heard with
  | nil =>
    refine ⟨now, kept, later, ?_⟩
    show Recency.Since _ _ own start good (heard ++ []) state.nodeinfoPeers
    rw [List.append_nil]
    exact since
  | cons call calls ih =>
    obtain ⟨first, increasing⟩ := List.pairwise_cons.mp increasing
    have here := later call List.mem_cons_self
    have next := since_next lasting kept (Int.lt_of_le_of_lt begun here) since
    rw [heardNodes_cons, ← List.append_assoc]
    exact ih (kept.next here) (Int.le_trans begun (Int.le_of_lt here)) increasing first next

theorem peersKept_run (calls rest : List NodeinfoCall) (kept : PeersKept now state.nodeinfoPeers)
    (increasing : (calls ++ rest).Pairwise fun a b => a.time < b.time) (later : ∀ call ∈ calls ++ rest, now < call.time) :
    ∃ then_, PeersKept then_ (Transition.answers (ModuleState.nodeinfoCall nodeId) state calls).1.nodeinfoPeers ∧
      ∀ call ∈ rest, then_ < call.time := by
  induction calls generalizing state now with
  | nil => exact ⟨now, kept, later⟩
  | cons call calls ih =>
    obtain ⟨first, increasing⟩ := List.pairwise_cons.mp increasing
    exact ih (kept.next (later call List.mem_cons_self)) increasing first

theorem exists_before (calls : List NodeinfoCall) : ∃ now : Int, ∀ call ∈ calls, now < call.time := by
  induction calls with
  | nil => exact ⟨0, fun _ none => absurd none List.not_mem_nil⟩
  | cons call calls ih =>
    obtain ⟨now, below⟩ := ih
    refine ⟨min now (call.time - 1), ?_⟩
    intro other member
    cases List.mem_cons.mp member with
    | inl here =>
      rw [here]
      omega
    | inr later =>
      have bound := below other later
      omega

theorem peersKept_boot (now : Int) : PeersKept now ({} : ModuleState mod).nodeinfoPeers := by
  refine ⟨⟨?_, fun i taken => absurd rfl taken⟩, fun _ _ _ _ => rfl⟩
  intro i j own first
  cases first

theorem nodeinfoAfter_append (before after : List NodeinfoCall) :
    (nodeinfoAfter nodeId (before ++ after) : ModuleState mod) =
      (Transition.answers (ModuleState.nodeinfoCall nodeId) (nodeinfoAfter nodeId before) after).1 := by
  unfold nodeinfoAfter
  exact Transition.answers_append _ before after

/-- What a first call makes true of a node's peer is still true when a second call hears the node, or as
many others as the table has places have been heard in between. -/
theorem good_or_forgotten {before middle : List NodeinfoCall} {first second : NodeinfoCall}
    (increasing : (before ++ first :: (middle ++ [second])).Pairwise fun a b => a.time < b.time)
    (lasting : Lasting mod nodeId first.time good)
    (ordinaryFirst : strangeSource nodeId first.source = false) (ownFirst : first.source.from_ = own)
    (ordinarySecond : strangeSource nodeId second.source = false) (ownSecond : second.source.from_ = own)
    (sets : ∀ peer entry, first.Takes nodeId (nodeinfoAfter nodeId before : ModuleState mod) peer entry → good entry)
    (quiet : ∀ old, good { old with lastSeenMs := second.time } ↔ good old) :
    (∃ peer entry, good peer ∧
      second.Takes nodeId (nodeinfoAfter nodeId (before ++ first :: middle) : ModuleState mod) peer entry) ∨
    mod.nodeinfoPeerCacheSize ≤ (othersHeard nodeId own middle).card := by
  obtain ⟨boot, below⟩ := exists_before (before ++ first :: (middle ++ [second]))
  have booted : PeersKept boot ({} : ModuleState mod).nodeinfoPeers := peersKept_boot boot
  have reached : ∃ now, PeersKept now (nodeinfoAfter nodeId before : ModuleState mod).nodeinfoPeers ∧
      ∀ call ∈ first :: (middle ++ [second]), now < call.time :=
    peersKept_run before (first :: (middle ++ [second])) booted increasing below
  have same : (nodeinfoAfter nodeId (before ++ first :: middle) : ModuleState mod) = _ :=
    nodeinfoAfter_append before (first :: middle)
  rw [same]
  generalize (nodeinfoAfter nodeId before : ModuleState mod) = atFirst at reached sets ⊢
  obtain ⟨now, kept, later⟩ := reached
  have atTime := later first List.mem_cons_self
  obtain ⟨firstBefore, increasing⟩ := List.pairwise_cons.mp (List.pairwise_append.mp increasing).2.1
  obtain ⟨place, entry, written, -, -, held, seen, peer, takes, -⟩ := nodeinfoCall_writes kept ordinaryFirst
  rw [ownFirst] at held
  have since : Recency.Since NodeinfoPeer.held NodeinfoPeer.lastSeenMs own first.time good []
      (atFirst.nodeinfoCall nodeId first).1.nodeinfoPeers := by
    rw [written]
    exact Recency.Since.begin kept.valid atTime held seen (sets peer entry takes)
  obtain ⟨then_, kept, later, since⟩ :=
    since_run lasting middle [second] (kept.next atTime) (Int.le_refl _) increasing firstBefore since
  obtain ⟨place, entry, -, places, -, -, -, peer, takes, hit⟩ := nodeinfoCall_writes kept ordinarySecond
  rw [ownSecond] at places hit
  cases since.kept with
  | inr many => exact Or.inr many
  | inl still =>
    obtain ⟨i, mine, -, isGood⟩ := still
    have here := places.hit i mine
    rw [here] at mine isGood
    refine Or.inl ⟨peer, entry, ?_, takes⟩
    rw [hit mine]
    exact (quiet _).mpr isGood

theorem sends_ordinary {made : ModulePacket} (sent : (state.nodeinfoCall nodeId call).2 = some made) :
    strangeSource nodeId call.source = false := by
  cases strange : strangeSource nodeId call.source with
  | false => rfl
  | true =>
    rw [nodeinfoCall_strange strange] at sent
    cases sent

theorem ModuleState.Probes.ordinary {node : UInt32} (probes : state.Probes nodeId call node) :
    strangeSource nodeId call.source = false ∧ call.source.from_ = node := by
  cases call with
  | request outside req => exact False.elim probes
  | packet outside primaryIndex heard =>
    obtain ⟨probe, sent, -⟩ := id probes
    have ordinary := sends_ordinary sent
    obtain ⟨entry, -, takes⟩ := nodeinfoCall_takes state ordinary
    exact ⟨ordinary, (takes.probes node probes).1.symm⟩

theorem ModuleState.Replies.ordinary {node : UInt32} (replies : state.Replies nodeId call node) :
    strangeSource nodeId call.source = false ∧ call.source.from_ = node := by
  cases call with
  | packet outside primaryIndex heard => exact False.elim replies
  | request outside req =>
    obtain ⟨reply, sent, -⟩ := id replies
    have ordinary := sends_ordinary sent
    obtain ⟨entry, -, takes⟩ := nodeinfoCall_takes state ordinary
    exact ⟨ordinary, (takes.replies node replies).1.symm⟩

theorem NodeinfoCall.DecodesUser.ordinary {node : UInt32} (decodes : call.DecodesUser nodeId node) :
    strangeSource nodeId call.source = false ∧ call.source.from_ = node := by
  cases call with
  | packet outside primaryIndex heard => exact ⟨decodes.1, decodes.2.1⟩
  | request outside req => exact False.elim decodes

theorem intervalElapsed_false {last now interval since : Int} (after : since ≤ last) (early : now - since < interval) :
    intervalElapsed true last now interval = false := by
  unfold intervalElapsed
  rw [Bool.not_true, Bool.false_or, decide_eq_false_iff_not]
  omega

/-! ## The three limits -/

/-- Two calls for a node, the second of which waits for a window after the time that the first one notes on
the peer: a call in between keeps that time or notes a later one. -/
theorem noted_limits {before middle : List NodeinfoCall} {first second : NodeinfoCall} {valid : NodeinfoPeer → Bool}
    {last : NodeinfoPeer → Int} {window : Int}
    (increasing : (before ++ first :: (middle ++ [second])).Pairwise fun a b => a.time < b.time)
    (ordinaryFirst : strangeSource nodeId first.source = false ∧ first.source.from_ = own)
    (ordinarySecond : strangeSource nodeId second.source = false ∧ second.source.from_ = own)
    (unseen : ∀ peer now, valid { peer with lastSeenMs := now } = valid peer ∧
      last { peer with lastSeenMs := now } = last peer)
    (keeps : ∀ (state : ModuleState mod) (call : NodeinfoCall) (peer entry : NodeinfoPeer),
      call.Takes nodeId state peer entry →
      valid entry = valid peer ∧ last entry = last peer ∨ valid entry = true ∧ last entry = call.time)
    (notes : ∀ peer entry, first.Takes nodeId (nodeinfoAfter nodeId before : ModuleState mod) peer entry →
      valid entry = true ∧ last entry = first.time)
    (waits : ∀ peer entry, second.Takes nodeId (nodeinfoAfter nodeId (before ++ first :: middle) : ModuleState mod)
      peer entry → intervalElapsed (valid peer) (last peer) second.time window = true)
    (early : second.time - first.time < window) :
    mod.nodeinfoPeerCacheSize ≤ (othersHeard nodeId own middle).card := by
  have lasting : Lasting mod nodeId first.time (fun peer => valid peer = true ∧ first.time ≤ last peer) := by
    intro state call old entry later takes isGood
    cases keeps state call _ entry takes with
    | inl same =>
      rw [(unseen old call.time).1, (unseen old call.time).2] at same
      exact ⟨same.1.trans isGood.1, le_of_le_of_eq isGood.2 same.2.symm⟩
    | inr renewed => exact ⟨renewed.1, le_of_le_of_eq (Int.le_of_lt later) renewed.2.symm⟩
  have sets : ∀ peer entry, first.Takes nodeId (nodeinfoAfter nodeId before : ModuleState mod) peer entry →
      valid entry = true ∧ first.time ≤ last entry := by
    intro peer entry takes
    obtain ⟨isValid, time⟩ := notes peer entry takes
    exact ⟨isValid, le_of_eq time.symm⟩
  have quiet : ∀ old : NodeinfoPeer,
      (valid { old with lastSeenMs := second.time } = true ∧ first.time ≤ last { old with lastSeenMs := second.time }) ↔
        (valid old = true ∧ first.time ≤ last old) := by
    intro old
    rw [(unseen old second.time).1, (unseen old second.time).2]
  cases good_or_forgotten increasing lasting ordinaryFirst.1 ordinaryFirst.2 ordinarySecond.1 ordinarySecond.2 sets
      quiet with
  | inr many => exact many
  | inl still =>
    obtain ⟨peer, entry, isGood, takes⟩ := still
    have elapsed := waits peer entry takes
    rw [isGood.1, intervalElapsed_false isGood.2 early] at elapsed
    cases elapsed

theorem probes_limited {before middle : List NodeinfoCall} {first second : NodeinfoCall} {node : UInt32}
    (increasing : (before ++ first :: (middle ++ [second])).Pairwise fun a b => a.time < b.time)
    (asked : (nodeinfoAfter nodeId before : ModuleState mod).Probes nodeId first node)
    (asks : (nodeinfoAfter nodeId (before ++ first :: middle) : ModuleState mod).Probes nodeId second node)
    (early : second.time - first.time < mod.nodeinfoUnknownSuppressSec * MSEC_PER_SEC) :
    mod.nodeinfoPeerCacheSize ≤ (othersHeard nodeId node middle).card := by
  apply noted_limits increasing asked.ordinary asks.ordinary (fun _ _ => ⟨rfl, rfl⟩)
    (fun _ _ _ _ takes => takes.request) ?_ ?_ early
  · intro peer entry takes
    obtain ⟨-, -, -, noted⟩ := takes.probes node asked
    exact noted
  · intro peer entry takes
    obtain ⟨-, -, elapsed, -⟩ := takes.probes node asks
    exact elapsed

theorem replies_limited {before middle : List NodeinfoCall} {first second : NodeinfoCall} {node : UInt32}
    (increasing : (before ++ first :: (middle ++ [second])).Pairwise fun a b => a.time < b.time)
    (answered : (nodeinfoAfter nodeId before : ModuleState mod).Replies nodeId first node)
    (answers : (nodeinfoAfter nodeId (before ++ first :: middle) : ModuleState mod).Replies nodeId second node)
    (early : second.time - first.time < mod.nodeinfoReplySuppressSec * MSEC_PER_SEC) :
    mod.nodeinfoPeerCacheSize ≤ (othersHeard nodeId node middle).card := by
  apply noted_limits increasing answered.ordinary answers.ordinary (fun _ _ => ⟨rfl, rfl⟩)
    (fun _ _ _ _ takes => takes.reply) ?_ ?_ early
  · intro peer entry takes
    obtain ⟨-, -, noted⟩ := takes.replies node answered
    exact noted
  · intro peer entry takes
    obtain ⟨-, elapsed, -⟩ := takes.replies node answers
    exact elapsed

theorem known_not_probed {before middle : List NodeinfoCall} {first second : NodeinfoCall} {node : UInt32}
    (increasing : (before ++ first :: (middle ++ [second])).Pairwise fun a b => a.time < b.time)
    (decodes : first.DecodesUser nodeId node)
    (asks : (nodeinfoAfter nodeId (before ++ first :: middle) : ModuleState mod).Probes nodeId second node) :
    mod.nodeinfoPeerCacheSize ≤ (othersHeard nodeId node middle).card := by
  have lasting : Lasting mod nodeId first.time (fun peer => peer.hasUser = true) :=
    fun _ _ _ _ _ takes isGood => takes.user isGood
  cases good_or_forgotten increasing lasting decodes.ordinary.1 decodes.ordinary.2 asks.ordinary.1 asks.ordinary.2
      (fun _ _ takes => takes.decodes node decodes) (fun _ => Iff.rfl) with
  | inr many => exact many
  | inl still =>
    obtain ⟨peer, entry, isGood, takes⟩ := still
    obtain ⟨-, unknown, -⟩ := takes.probes node asks
    rw [isGood] at unknown
    cases unknown

end

/-- NodeInfo is asked of a node and sent to a node no more often than configured, and not asked of a node
whose User was seen, unless as many other nodes as the table has places were heard in between. -/
theorem nodeinfo_limits (mod : ModuleKconfig) (nodeId : UInt32) (before middle : List NodeinfoCall)
    (first second : NodeinfoCall) (node : UInt32)
    (increasing : (before ++ first :: (middle ++ [second])).Pairwise fun a b => a.time < b.time)
    (early :
      let atFirst : ModuleState mod := nodeinfoAfter nodeId before
      let atSecond : ModuleState mod := nodeinfoAfter nodeId (before ++ first :: middle)
      (atFirst.Probes nodeId first node ∧ atSecond.Probes nodeId second node ∧
        second.time - first.time < mod.nodeinfoUnknownSuppressSec * MSEC_PER_SEC) ∨
      (atFirst.Replies nodeId first node ∧ atSecond.Replies nodeId second node ∧
        second.time - first.time < mod.nodeinfoReplySuppressSec * MSEC_PER_SEC) ∨
      (first.DecodesUser nodeId node ∧ atSecond.Probes nodeId second node)) :
    mod.nodeinfoPeerCacheSize ≤ (othersHeard nodeId node middle).card := by
  cases early with
  | inl probes => exact probes_limited increasing probes.1 probes.2.1 probes.2.2
  | inr others =>
    cases others with
    | inl replies => exact replies_limited increasing replies.1 replies.2.1 replies.2.2
    | inr known => exact known_not_probed increasing known.1 known.2

def textAt (node : UInt32) (time : Int) : NodeinfoCall :=
  .packet { plainOutside with heardAt := time } 0 { heardText 0 0x08 with from_ := node }

theorem nodeinfo_limits_fullTable :
    4 ≤ (othersHeard 0x11 0x33 [textAt 0x41 1, textAt 0x42 2, textAt 0x43 3, textAt 0x44 4]).card :=
  nodeinfo_limits nodeinfoOnly 0x11 [] [textAt 0x41 1, textAt 0x42 2, textAt 0x43 3, textAt 0x44 4] (textAt 0x33 0)
    (textAt 0x33 5) 0x33 (by decide) (Or.inl ⟨⟨_, rfl, rfl⟩, ⟨_, rfl, rfl⟩, by decide⟩)

end Meshtastic
