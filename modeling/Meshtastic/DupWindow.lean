import Meshtastic.Lib.Ring
import Meshtastic.NodeEffects

/-! The duplicate cache is a sliding window over the packets a node has accepted since it was
initialised, whether they came over LoRa or from MQTT. -/

namespace Meshtastic

/-- A node with the packets it has accepted as new, newest first. The code keeps no such list. -/
structure Watched (cfg : Kconfig) where
  node : Node cfg
  accepted : List (UInt32 × UInt32)

section
variable {cfg : Kconfig} {codec : Codec} {board : Board}

def Watched.step (codec : Codec) (board : Board) (watched : Watched cfg) (request : Request cfg) :
    Option (Watched cfg) :=
  (watched.node.step codec board request).map fun next =>
    { node := next, accepted := (watched.node.accepts request).toList ++ watched.accepted }

/-- The cache holds the newest packets, and each of them was new when it was accepted. -/
structure Watched.Windowed (watched : Watched cfg) : Prop where
  holds : Ring.Holds (0, 0) watched.node.dupCache watched.node.dupHead watched.accepted
  fresh : Ring.Fresh (0, 0) cfg.dupCacheSize watched.accepted

theorem Watched.Windowed.dupCheck_iff {watched : Watched cfg} (windowed : watched.Windowed) (src id : UInt32) :
    watched.node.dupCheck src id = true ↔ (src, id) ∈ watched.accepted.take cfg.dupCacheSize ∨
      ((src, id) = (0, 0) ∧ watched.accepted.length < cfg.dupCacheSize) := by
  unfold Node.dupCheck
  rw [decide_eq_true_eq]
  exact windowed.holds.mem_iff (src, id)

/-- Only packets the cache does not hold are accepted. -/
theorem Node.accepts_fresh {node : Node cfg} {request : Request cfg} {src id : UInt32}
    (accepted : node.accepts request = some (src, id)) : node.dupCheck src id = false := by
  unfold accepts at accepted
  split at accepted
  · split at accepted
    next => contradiction
    next hdr _ _ =>
      split_ifs at accepted with ignored seen
      cases accepted
      simpa using seen
  · split_ifs at accepted with off seen
    cases accepted
    simpa using seen
  · contradiction

/-- Only the packet a request makes the node accept enters the cache. -/
theorem Node.step_dupCache {node next : Node cfg} {request : Request cfg} (running : request.isInit = false)
    (taken : node.step codec board request = some next) :
    next.dupCache = (node.remember request).dupCache ∧ next.dupHead = (node.remember request).dupHead := by
  by_cases admin : request.isAdmin = false
  · obtain ⟨before, emits, same⟩ := Node.step_emits admin taken
    rw [same]
    split
    · exact ⟨emits.dupCache, emits.dupHead⟩
    · exact ⟨emits.dupCache, emits.dupHead⟩
  · cases request with
    | configure settings =>
      cases taken
      exact ⟨rfl, rfl⟩
    | init config boot => contradiction
    | _ => exact False.elim (admin rfl)

theorem Watched.Windowed.step {watched next : Watched cfg} {request : Request cfg} (windowed : watched.Windowed)
    (running : request.isInit = false) (taken : watched.step codec board request = some next) : next.Windowed := by
  obtain ⟨node, stepped, same⟩ := Option.map_eq_some_iff.mp taken
  obtain ⟨cache, head⟩ := Node.step_dupCache running stepped
  subst same
  unfold Node.remember at cache head
  cases accepted : watched.node.accepts request with
  | none =>
    rw [accepted] at cache head
    refine ⟨?_, windowed.fresh⟩
    simp only [cache, head]
    exact windowed.holds
  | some pair =>
    obtain ⟨src, id⟩ := pair
    rw [accepted] at cache head
    have unseen := Node.accepts_fresh accepted
    have isNew : ¬((src, id) ∈ watched.accepted.take cfg.dupCacheSize ∨
        ((src, id) = (0, 0) ∧ watched.accepted.length < cfg.dupCacheSize)) := by
      rw [← windowed.dupCheck_iff src id]
      simp [unseen]
    refine ⟨?_, ⟨not_or.mp isNew, windowed.fresh⟩⟩
    simp only [cache, head]
    exact windowed.holds.push (src, id)

theorem meshtasticInit_dupCache {node next : Node cfg} {config : NodeConfig} {boot : Boot}
    (booted : meshtasticInit board node config boot = some (none, next)) : next.dupCache = fun _ => (0, 0) := by
  unfold meshtasticInit at booted
  by_cases ready : config.loraReady = false
  · rw [if_pos ready] at booted
    cases booted
  rw [if_neg ready] at booted
  split at booted
  next psk channelName _ _ =>
    by_cases refused : (psk.length ≠ 16 ∧ psk.length ≠ 32) ∨ config.frequency = 0
    · rw [if_pos refused] at booted
      cases booted
    rw [if_neg refused] at booted
    split at booted
    next => cases booted
    next =>
      split at booted
      next => contradiction
      next =>
        by_cases psa : boot.psa = false
        · simp only [if_pos psa] at booted
          cases booted
        · simp only [if_neg psa] at booted
          rw [← (Prod.mk.inj (Option.some.inj booted)).2]
          rfl
  next => cases booted

/-- In every run after an initialisation, a packet other than (0, 0) counts as a duplicate exactly when
it is among the last packets accepted, as many as the cache has room for. Between two acceptances of
the same packet at least that many others are accepted, the last of them all different. What is accepted is
what a step delivers and hands on for others. -/
theorem dupCheck_window (cfg : Kconfig) (codec : Codec) (board : Board) (cold start : Node cfg) (config : NodeConfig)
    (boot : Boot) (booted : meshtasticInit board cold config boot = some (none, start))
    (requests : List (Request cfg)) (running : ∀ request ∈ requests, request.isInit = false)
    (last : Watched cfg) (whole : Transition.run (Watched.step codec board) ⟨start, []⟩ requests = some last) :
    (∀ src id, (src, id) ≠ (0, 0) →
      (last.node.dupCheck src id = true ↔ (src, id) ∈ last.accepted.take cfg.dupCacheSize)) ∧
    (∀ pair newer between older, last.accepted = newer ++ pair :: (between ++ pair :: older) →
      cfg.dupCacheSize ≤ between.length ∧ pair ∉ between.take cfg.dupCacheSize ∧
        (between.take cfg.dupCacheSize).Nodup) ∧
    ∀ request next, last.node.cleared.step codec board request = some next →
      last.node.OnlyAccepted request next.log := by
  have guarded : Transition.Guarded (Watched.step codec board) (fun _ request => request.isInit = false)
      ⟨start, []⟩ requests := Transition.guarded_of_forall (fun _ => running) _
  have windowed : last.Windowed := by
    refine Transition.run_invariant ?_ ?_ guarded whole
    · intro watched request next holds permitted taken
      exact holds.step permitted taken
    · refine ⟨?_, trivial⟩
      simp only [meshtasticInit_dupCache booted]
      exact Ring.holds_nil (0, 0) start.dupHead
  refine ⟨?_, ?_, ?_⟩
  · intro src id named
    rw [windowed.dupCheck_iff]
    simp [named]
  · intro pair newer between older same
    have fresh := windowed.fresh
    rw [same] at fresh
    have here := fresh.older
    obtain ⟨long, other⟩ := here.between
    refine ⟨long, other, ?_⟩
    have later : Ring.Fresh (0, 0) cfg.dupCacheSize (between ++ pair :: older) := here.2
    have distinct := later.nodup_take (Nat.le_refl _)
    rwa [List.take_append_of_le_length long] at distinct
  · intro request next taken
    have shown : last.node.cleared.OnlyAccepted request next.log := Node.step_onlyAccepted rfl taken
    exact ⟨shown.delivered, shown.heard, shown.carried⟩

end

theorem dupCheck_window_threeCopies :
    ∃ start last, meshtasticInit plainBoard (Node.powerOn smallKconfig coldTable) plainNodeConfig plainBoot =
        some (none, start) ∧
      Transition.run (Watched.step (dataCodec fun _ _ _ => 0) plainBoard) ⟨start, []⟩
        [.receive (greeting.header 0x08).octets (-90) 6 plainAround,
          .inject { from_ := 0x11, to_ := 0x22, id := 7 } plainAround,
          .inject { from_ := 0x33, to_ := 0x22, id := 9 } plainAround,
          .receive (greeting.header 0x08).octets (-90) 6 plainAround] = some last ∧
      last.accepted = [(0x33, 9), (0x11, 7)] ∧
      (last.node.dupCheck 0x11 7 = true ↔ (0x11, 7) ∈ last.accepted.take 4) := by
  refine ⟨_, _, rfl, rfl, by decide, ?_⟩
  exact (dupCheck_window smallKconfig (dataCodec fun _ _ _ => 0) plainBoard (Node.powerOn smallKconfig coldTable) _
    plainNodeConfig plainBoot rfl
    [.receive (greeting.header 0x08).octets (-90) 6 plainAround,
      .inject { from_ := 0x11, to_ := 0x22, id := 7 } plainAround,
      .inject { from_ := 0x33, to_ := 0x22, id := 9 } plainAround,
      .receive (greeting.header 0x08).octets (-90) 6 plainAround] (by decide) _ rfl).1 0x11 7 (by decide)

end Meshtastic
