import Meshtastic.DupWindow
import Meshtastic.Flood
import Mathlib.Algebra.Order.BigOperators.Group.Finset

/-! How often a mesh repeats a packet. A node relays only what it has just accepted as new, so the duplicate caches
bound how often a frame comes back, whatever the radio loses, delays or repeats. -/

namespace Meshtastic
open Bytes

theorem countP_le_sum {Item Owner : Type} {counted : Item → Bool} {ownedBy : Owner → Item → Bool} (owners : Finset Owner)
    {items : List Item} (owned : ∀ item ∈ items, counted item = true → ∃ owner ∈ owners, ownedBy owner item = true) :
    items.countP counted ≤ ∑ owner ∈ owners, items.countP (ownedBy owner) := by
  induction items with
  | nil => exact Nat.zero_le _
  | cons item items ih =>
    have behind := ih (fun other member => owned other (List.mem_cons_of_mem item member))
    by_cases here : counted item = true
    · obtain ⟨owner, among, own⟩ := owned item List.mem_cons_self here
      have more : ∑ owner ∈ owners, items.countP (ownedBy owner) <
          ∑ owner ∈ owners, (item :: items).countP (ownedBy owner) := by
        apply Finset.sum_lt_sum
        · intro other _
          exact (List.sublist_cons_self item items).countP_le
        · refine ⟨owner, among, ?_⟩
          rw [List.countP_cons_of_pos own]
          exact Nat.lt_succ_self _
      rw [List.countP_cons_of_pos here]
      omega
    · rw [List.countP_cons_of_neg here]
      refine Nat.le_trans behind (Finset.sum_le_sum ?_)
      intro owner _
      exact (List.sublist_cons_self item items).countP_le

def framePacket (frame : Octets) : Option (UInt32 × UInt32) :=
  (readHeader frame).map fun parsed => (parsed.1.src, parsed.1.id)

def Flight.relaysPacket (pair : UInt32 × UInt32) : Flight → Bool
  | relayed _ _ heard => framePacket heard.frame = some pair
  | _ => false

def Flight.relayedBy (nodeId : UInt32) (pair : UInt32 × UInt32) : Flight → Bool
  | relayed _ relayer heard => relayer = nodeId && framePacket heard.frame = some pair
  | _ => false

section
variable {cfg : Kconfig} {Name : Type}

def Move.who : Move cfg Name → Name
  | act who _ => who
  | hear who _ _ _ _ => who
  | bridge who _ _ _ => who

def Move.request : Move cfg Name → Request cfg
  | act _ request => request
  | hear _ heard rssi snr around => .receive heard.frame rssi snr around
  | bridge _ _ mesh around => .inject mesh around

/-- A mesh with the packets that each node has accepted as new, newest first. The code keeps no such list. -/
structure WatchedFlood (cfg : Kconfig) (Name : Type) where
  flood : Flood cfg Name
  accepted : Name → List (UInt32 × UInt32)

structure Flood.Rested (flood : Flood cfg Name) : Prop where
  distinct : Function.Injective fun who => (flood.nodes who).nodeId
  unheard : ∀ who, (flood.nodes who).dupCache = fun _ => (0, 0)
  quiet : flood.air = []

section
variable [DecidableEq Name]

def WatchedFlood.step (codec : Codec) (boards : Name → Board) (watched : WatchedFlood cfg Name)
    (move : Move cfg Name) : Option (WatchedFlood cfg Name) :=
  (watched.flood.step codec boards move).map fun next =>
    { flood := next
      accepted := Function.update watched.accepted move.who
        (((watched.flood.nodes move.who).accepts move.request).toList ++ watched.accepted move.who) }

/-- The caches are windows over what was accepted, and nobody relays a packet more often than he accepts it. -/
structure WatchedFlood.Bounded (ids : Name → UInt32) (watched : WatchedFlood cfg Name) : Prop where
  named : ∀ who, (watched.flood.nodes who).nodeId = ids who
  windowed : ∀ who, Watched.Windowed ⟨watched.flood.nodes who, watched.accepted who⟩
  relays : ∀ who pair, watched.flood.air.countP (Flight.relayedBy (ids who) pair) ≤ (watched.accepted who).count pair
  relayers : ∀ pair flight, flight ∈ watched.flood.air → flight.relaysPacket pair = true →
    ∃ who, flight.relayedBy (ids who) pair = true ∧ ids who ≠ pair.1

end

variable {codec : Codec} {board : Board}

theorem Flood.Rested.bounded [DecidableEq Name] {flood : Flood cfg Name} (rested : flood.Rested) :
    WatchedFlood.Bounded (fun who => (flood.nodes who).nodeId) ⟨flood, fun _ => []⟩ where
  named := fun _ => rfl
  windowed := by
    intro who
    refine ⟨?_, trivial⟩
    simp only [rested.unheard who]
    exact Ring.holds_nil (0, 0) (flood.nodes who).dupHead
  relays := by
    intro who pair
    rw [rested.quiet]
    exact Nat.zero_le _
  relayers := by
    intro pair flight member
    rw [rested.quiet] at member
    exact absurd member List.not_mem_nil

theorem Node.emissions_relayed (codec : Codec) (node next : Node cfg) (request : Request cfg) (heard : Flight)
    (other : Octets → Flight) (unrelayed : ∀ frame, (other frame).isRelayed = false) :
    ∃ rest : List Flight, (∀ flight ∈ rest, flight.isRelayed = false) ∧
      node.emissions codec request heard other next =
        ((node.relays codec request).map fun frame => Flight.relayed frame node.nodeId heard).toList ++ rest := by
  have labelled : ∀ label : Octets → Flight, (∀ frame, (label frame).isRelayed = false) → ∀ frames : List Octets,
      ∀ flight ∈ frames.map label, flight.isRelayed = false := by
    intro label unmarked frames flight member
    obtain ⟨frame, -, same⟩ := List.mem_map.mp member
    rw [← same]
    exact unmarked frame
  unfold emissions
  cases node.relays codec request with
  | none =>
    refine ⟨_, labelled _ ?_ (handedFrames next.log), rfl⟩
    intro frame
    split
    · rfl
    · exact unrelayed frame
  | some frame =>
    refine ⟨_, labelled _ ?_ (handedFrames next.log.tail), rfl⟩
    intro frame
    split
    · rfl
    · exact unrelayed frame

section
variable [DecidableEq Name] {boards : Name → Board} {flood after : Flood cfg Name} {move : Move cfg Name}

/-- A move lets one node take a step, and puts at most one relayed flight on the air: a packet of another that the node
accepts with it. -/
theorem Flood.step_relays (taken : flood.step codec boards move = some after) :
    ∃ (next : Node cfg) (first : Option Flight) (rest : List Flight),
      (flood.nodes move.who).cleared.step codec (boards move.who) move.request = some next ∧
      after = ⟨Function.update flood.nodes move.who next, first.toList ++ rest ++ flood.air⟩ ∧
      (∀ flight ∈ rest, flight.isRelayed = false) ∧
      ∀ flight ∈ first, ∃ frame heard pair, flight = .relayed frame (flood.nodes move.who).nodeId heard ∧
        framePacket heard.frame = some pair ∧ (flood.nodes move.who).accepts move.request = some pair ∧
        (flood.nodes move.who).nodeId ≠ pair.1 := by
  cases move with
  | act who request =>
    simp only [step] at taken
    split_ifs at taken
    obtain ⟨next, done, same⟩ := Option.map_eq_some_iff.mp taken
    refine ⟨next, none, (handedFrames next.log).map .sent, done, same.symm, ?_, fun _ none => by cases none⟩
    intro flight member
    obtain ⟨frame, -, here⟩ := List.mem_map.mp member
    rw [← here]
    rfl
  | hear who heard rssi snr around =>
    simp only [step] at taken
    split_ifs at taken
    obtain ⟨next, done, same⟩ := Option.map_eq_some_iff.mp taken
    obtain ⟨rest, unrelayed, emitted⟩ := (flood.nodes who).cleared.emissions_relayed codec next
      (.receive heard.frame rssi snr around) heard .sent (fun _ => rfl)
    simp only [emitted] at same
    refine ⟨next, _, rest, done, same.symm, unrelayed, ?_⟩
    intro flight relayed
    obtain ⟨frame, relays, here⟩ := Option.map_eq_some_iff.mp relayed
    obtain ⟨hdr, enc, parsed, src, accepted, -⟩ := Node.relays_accepts relays
    have named : framePacket heard.frame = some (hdr.src, hdr.id) := by
      rw [framePacket, parsed]
      rfl
    exact ⟨frame, heard, (hdr.src, hdr.id), here.symm, named, accepted, Ne.symm src⟩
  | bridge who heard mesh around =>
    simp only [step] at taken
    split_ifs at taken
    obtain ⟨next, done, same⟩ := Option.map_eq_some_iff.mp taken
    obtain ⟨rest, unrelayed, emitted⟩ := (flood.nodes who).cleared.emissions_relayed codec next
      (.inject mesh around) heard (fun frame => .bridged frame heard) (fun _ => rfl)
    have silent : (flood.nodes who).cleared.relays codec (.inject mesh around) = none := Node.relays_none (by simp)
    simp only [emitted, silent] at same
    exact ⟨next, none, rest, done, same.symm, unrelayed, fun _ none => by cases none⟩

theorem Flight.relayedBy_iff {flight : Flight} {nodeId : UInt32} {pair : UInt32 × UInt32} :
    flight.relayedBy nodeId pair = true ↔
      ∃ frame heard, flight = .relayed frame nodeId heard ∧ framePacket heard.frame = some pair := by
  cases flight with
  | relayed frame relayer heard =>
    unfold relayedBy
    rw [Bool.and_eq_true, decide_eq_true_eq, decide_eq_true_eq]
    constructor
    · rintro ⟨same, named⟩
      exact ⟨frame, heard, same ▸ rfl, named⟩
    · rintro ⟨_, _, same, named⟩
      cases same
      exact ⟨rfl, named⟩
  | _ =>
    constructor
    · intro counted
      contradiction
    · rintro ⟨_, _, same, -⟩
      contradiction

theorem countP_relayedBy {flights : List Flight} (unrelayed : ∀ flight ∈ flights, flight.isRelayed = false)
    (nodeId : UInt32) (pair : UInt32 × UInt32) : flights.countP (Flight.relayedBy nodeId pair) = 0 := by
  rw [List.countP_eq_zero]
  intro flight member counted
  have flies := unrelayed flight member
  cases flight with
  | relayed frame relayer heard => contradiction
  | _ => contradiction

theorem Node.step_nodeId {node next : Node cfg} {request : Request cfg} (running : request.isInit = false)
    (taken : node.step codec board request = some next) : next.nodeId = node.nodeId := by
  by_cases admin : request.isAdmin = false
  · exact (Node.step_identity admin taken).1
  · cases request with
    | configure settings =>
      cases taken
      rfl
    | init config boot => contradiction
    | _ => exact absurd rfl admin

variable {ids : Name → UInt32}

theorem WatchedFlood.Bounded.step {watched next : WatchedFlood cfg Name} (bounded : watched.Bounded ids)
    (distinct : Function.Injective ids) (running : move.request.isInit = false)
    (taken : watched.step codec boards move = some next) : next.Bounded ids := by
  obtain ⟨after, stepped, same⟩ := Option.map_eq_some_iff.mp taken
  obtain ⟨node, first, rest, done, moved, unrelayed, relayed⟩ := Flood.step_relays stepped
  subst same moved
  have nodeId : node.nodeId = ids move.who := (Node.step_nodeId running done).trans (bounded.named move.who)
  constructor
  · intro who
    by_cases here : who = move.who
    · rw [here]
      simp only [Function.update_self]
      exact nodeId
    · simp only [Function.update_of_ne here]
      exact bounded.named who
  · intro who
    by_cases here : who = move.who
    · subst here
      simp only [Function.update_self]
      have before : Watched.Windowed ⟨(watched.flood.nodes move.who).cleared, watched.accepted move.who⟩ :=
        ⟨(bounded.windowed move.who).holds, (bounded.windowed move.who).fresh⟩
      have grown : Watched.step codec (boards move.who) ⟨(watched.flood.nodes move.who).cleared,
          watched.accepted move.who⟩ move.request = some ⟨node,
          ((watched.flood.nodes move.who).accepts move.request).toList ++ watched.accepted move.who⟩ := by
        simp only [Watched.step, done]
        rfl
      exact before.step running grown
    · simp only [Function.update_of_ne here]
      exact bounded.windowed who
  · intro who pair
    have older := bounded.relays who pair
    simp only [List.countP_append, countP_relayedBy unrelayed, Nat.add_zero]
    by_cases here : who = move.who
    · subst here
      have newer : first.toList.countP (Flight.relayedBy (ids move.who) pair) ≤
          ((watched.flood.nodes move.who).accepts move.request).toList.count pair := by
        cases first with
        | none => exact Nat.zero_le _
        | some flight =>
          obtain ⟨frame, heard, other, flies, named, accepted, -⟩ := relayed flight rfl
          rw [accepted, Option.toList_some, Option.toList_some]
          by_cases counted : flight.relayedBy (ids move.who) pair = true
          · obtain ⟨_, _, same, repeated⟩ := Flight.relayedBy_iff.mp counted
            rw [flies] at same
            rw [← (Flight.relayed.inj same).2.2, named] at repeated
            cases repeated
            rw [List.count_singleton_self]
            exact List.countP_le_length
          · rw [List.countP_singleton, if_neg counted]
            exact Nat.zero_le _
      simp only [Function.update_self, List.count_append]
      exact Nat.add_le_add newer older
    · have silent : first.toList.countP (Flight.relayedBy (ids who) pair) = 0 := by
        rw [List.countP_eq_zero]
        intro flight member counted
        obtain ⟨frame, heard, other, flies, -⟩ := relayed flight (Option.mem_toList.mp member)
        obtain ⟨_, _, same, -⟩ := Flight.relayedBy_iff.mp counted
        rw [flies, bounded.named] at same
        exact here (distinct (Flight.relayed.inj same).2.1.symm)
      simp only [Function.update_of_ne here, silent, Nat.zero_add]
      exact older
  · intro pair flight member counted
    rcases List.mem_append.mp member with new | old
    · rcases List.mem_append.mp new with made | other
      · obtain ⟨frame, heard, pair', flies, named, -, src⟩ := relayed flight (Option.mem_toList.mp made)
        rw [bounded.named] at flies src
        subst flies
        have repeated : framePacket heard.frame = some pair := of_decide_eq_true counted
        rw [named] at repeated
        cases repeated
        exact ⟨move.who, Flight.relayedBy_iff.mpr ⟨frame, heard, rfl, named⟩, src⟩
      · have flies := unrelayed flight other
        cases flight with
        | relayed frame relayer heard => contradiction
        | _ => contradiction
    · exact bounded.relayers pair flight old counted

/-- In a mesh of different nodes that stay up, whatever is lost, delayed, repeated or carried by MQTT, a node relays a
packet once, and once more only after it has accepted as many others as its cache has room for. A packet is relayed at
most once for each node but its source while no node takes up more than fills its cache. What is accepted is what a step
delivers and hands on for others. -/
theorem relays_bounded (codec : Codec) (boards : Name → Board) {start : Flood cfg Name} (rested : start.Rested)
    (moves : List (Move cfg Name)) (running : ∀ move ∈ moves, move.request.isInit = false)
    {last : WatchedFlood cfg Name}
    (whole : Transition.run (WatchedFlood.step codec boards) ⟨start, fun _ => []⟩ moves = some last) :
    (∀ who pair, last.flood.air.countP (Flight.relayedBy (start.nodes who).nodeId pair) * (cfg.dupCacheSize + 1) ≤
      (last.accepted who).length + cfg.dupCacheSize) ∧
    (∀ who pair, last.flood.air.countP (Flight.relayedBy (start.nodes who).nodeId pair) * cfg.dupCacheSize ≤
      (last.accepted who).countP (· != pair) + cfg.dupCacheSize) ∧
    (∀ [Fintype Name] pair, (∀ who, (last.accepted who).length ≤ cfg.dupCacheSize + 1) →
      last.flood.air.countP (Flight.relaysPacket pair) ≤
        (Finset.univ.filter fun who => (start.nodes who).nodeId ≠ pair.1).card) ∧
    ∀ who request next, (last.flood.nodes who).cleared.step codec (boards who) request = some next →
      (last.flood.nodes who).OnlyAccepted request next.log := by
  have bounded : last.Bounded fun who => (start.nodes who).nodeId := by
    refine Transition.run_invariant (fun _ _ _ bounded running => bounded.step rested.distinct running) rested.bounded
      (Transition.guarded_of_forall (fun _ => running) _) whole
  have each : ∀ who pair, last.flood.air.countP (Flight.relayedBy (start.nodes who).nodeId pair) * (cfg.dupCacheSize + 1) ≤
      (last.accepted who).length + cfg.dupCacheSize := by
    intro who pair
    calc last.flood.air.countP (Flight.relayedBy (start.nodes who).nodeId pair) * (cfg.dupCacheSize + 1)
        ≤ (last.accepted who).count pair * (cfg.dupCacheSize + 1) := Nat.mul_le_mul_right _ (bounded.relays who pair)
      _ ≤ (last.accepted who).length + cfg.dupCacheSize := (bounded.windowed who).fresh.count_mul_le
  refine ⟨each, ?_, ?_, ?_⟩
  · intro who pair
    have often := bounded.relays who pair
    have packed : (last.accepted who).count pair * (cfg.dupCacheSize + 1) ≤ (last.accepted who).length + cfg.dupCacheSize :=
      (bounded.windowed who).fresh.count_mul_le
    have parts : (last.accepted who).count pair + (last.accepted who).countP (· != pair) = (last.accepted who).length := by
      rw [List.length_eq_countP_add_countP (· == pair), List.count]
      congr 2
      funext other
      cases same : other == pair <;> simp [bne, same]
    calc last.flood.air.countP (Flight.relayedBy (start.nodes who).nodeId pair) * cfg.dupCacheSize
        ≤ (last.accepted who).count pair * cfg.dupCacheSize := Nat.mul_le_mul_right _ often
      _ ≤ (last.accepted who).countP (· != pair) + cfg.dupCacheSize := by
        rw [Nat.mul_succ] at packed
        omega
  swap
  · intro who request next taken
    have shown : (last.flood.nodes who).cleared.OnlyAccepted request next.log := Node.step_onlyAccepted rfl taken
    exact ⟨shown.delivered, shown.heard, shown.carried⟩
  intro _ pair few
  have once : ∀ who, last.flood.air.countP (Flight.relayedBy (start.nodes who).nodeId pair) ≤ 1 := by
    intro who
    have often := each who pair
    have short := few who
    by_contra twice
    have long : 2 * (cfg.dupCacheSize + 1) ≤
        last.flood.air.countP (Flight.relayedBy (start.nodes who).nodeId pair) * (cfg.dupCacheSize + 1) :=
      Nat.mul_le_mul_right _ (by omega)
    omega
  have shared : last.flood.air.countP (Flight.relaysPacket pair) ≤
      ∑ who ∈ Finset.univ.filter fun who => (start.nodes who).nodeId ≠ pair.1,
        last.flood.air.countP (Flight.relayedBy (start.nodes who).nodeId pair) := by
    apply countP_le_sum
    intro flight member counted
    obtain ⟨who, own, other⟩ := bounded.relayers pair flight member counted
    exact ⟨who, Finset.mem_filter.mpr ⟨Finset.mem_univ who, other⟩, own⟩
  calc last.flood.air.countP (Flight.relaysPacket pair)
      ≤ ∑ who ∈ Finset.univ.filter fun who => (start.nodes who).nodeId ≠ pair.1,
          last.flood.air.countP (Flight.relayedBy (start.nodes who).nodeId pair) := shared
    _ ≤ ∑ _who ∈ Finset.univ.filter fun who => (start.nodes who).nodeId ≠ pair.1, 1 :=
        Finset.sum_le_sum (fun who _ => once who)
    _ = (Finset.univ.filter fun who => (start.nodes who).nodeId ≠ pair.1).card := by rw [Finset.card_eq_sum_ones]

end

end

/-! ## Values for examples -/

def restedPair : Flood smallKconfig Bool :=
  (Transition.run (Flood.step (dataCodec fun _ _ _ => 0) pairBoards) (Flood.quiet smallKconfig fun _ => coldTable)
    (passingMoves.take 2)).getD (Flood.quiet smallKconfig fun _ => coldTable)

theorem restedPair_rested : restedPair.Rested where
  distinct := by
    intro who other same
    cases who
    · cases other
      · rfl
      · exact absurd same (by decide)
    · cases other
      · exact absurd same (by decide)
      · rfl
  unheard := by
    intro who
    cases who
    · rfl
    · rfl
  quiet := rfl

theorem relays_bounded_passingText :
    ∃ last, Transition.run (WatchedFlood.step (dataCodec fun _ _ _ => 0) pairBoards) ⟨restedPair, fun _ => []⟩
        (passingMoves.drop 2) = some last ∧
      last.flood.air.countP (Flight.relayedBy 0x22 (0x11, 1)) * 5 ≤ (last.accepted true).length + 4 :=
  ⟨_, rfl, (relays_bounded (dataCodec fun _ _ _ => 0) pairBoards restedPair_rested (passingMoves.drop 2) (by decide)
    rfl).1 true (0x11, 1)⟩

end Meshtastic
