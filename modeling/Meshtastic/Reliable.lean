import Meshtastic.Packet

/-! Transmit-side acknowledgement tracking (`meshtastic_reliable.c`): the table of packets
that wait for a ROUTING acknowledgement, and the three operations on it. Each operation is the
part of its source function that runs under the table lock; outcomes are reported afterwards. -/

namespace Meshtastic
open Bytes

/-- `struct reliable_entry`. An id of 0 marks a free slot. -/
structure ReliableEntry where
  id : UInt32 := 0
  dest : UInt32 := 0
  portnum : UInt32 := 0
  dueMs : Int := 0
  attemptsLeft : Nat := 0
  wire : Octets := []
  deriving DecidableEq

structure ReliableOutcome where
  id : UInt32
  dest : UInt32
  portnum : UInt32
  deriving DecidableEq

structure ReliableReport where
  outcome : ReliableOutcome
  type : EventType
  err : Option Errno
  deriving DecidableEq

def ReliableEntry.outcome (entry : ReliableEntry) : ReliableOutcome :=
  { id := entry.id, dest := entry.dest, portnum := entry.portnum }

abbrev ReliableSlot (cfg : Kconfig) := Fin cfg.reliableMaxPending
abbrev ReliableTable (cfg : Kconfig) := ReliableSlot cfg → ReliableEntry

def reliableReset (cfg : Kconfig) : ReliableTable cfg := fun _ => {}

def reliableEmitPacket (nodeId : UInt32) (outcome : ReliableOutcome) : Packet :=
  { from_ := nodeId
    to_ := outcome.dest
    id := outcome.id
    portnum := outcome.portnum
    channelIndex := CHANNEL_INDEX_INVALID
    wantAck := true }

def reliableRetryDelayMs (cfg : Kconfig) (rand : UInt32) : Int :=
  if cfg.reliableRetryJitterMs > 0 then
    cfg.reliableRetryIntervalMs + (rand.toNat % (cfg.reliableRetryJitterMs + 1) : Nat)
  else cfg.reliableRetryIntervalMs

/-- Whether a ROUTING payload acknowledges. Anything but an explicit error does. -/
def reliableRoutingIsAck (codec : Codec) (payload : Octets) : Bool :=
  if payload.length = 0 then true
  else
    match codec.decodeRouting payload with
    | none => true
    | some .other => true
    | some (.errorReason value) => value = 0

def findSlot {cfg : Kconfig} (entries : ReliableTable cfg) (test : ReliableEntry → Bool) :
    Option (ReliableSlot cfg) :=
  (List.finRange cfg.reliableMaxPending).find? (fun i => test (entries i))

/-- The guard of `meshtastic_reliable_track`. -/
def reliableTrackable (nodeId : UInt32) (packet : Packet) (wire : Octets) : Bool :=
  wire.length ≠ 0 && wire.length ≤ PKT_MAX && packet.wantAck && packet.id ≠ 0 &&
    packet.to_ ≠ NODE_BROADCAST && packet.to_ ≠ nodeId && packet.portnum ≠ PORT_ROUTING

def reliableEntryFor (cfg : Kconfig) (packet : Packet) (wire : Octets) (now : Int) (rand : UInt32) :
    ReliableEntry :=
  { id := packet.id
    dest := packet.to_
    portnum := packet.portnum
    attemptsLeft := cfg.reliableRetransmissions
    dueMs := now + reliableRetryDelayMs cfg rand
    wire := wire }

def reliableTrackSlot {cfg : Kconfig} (nodeId : UInt32) (entries : ReliableTable cfg) (packet : Packet)
    (wire : Octets) : Option (ReliableSlot cfg) :=
  if reliableTrackable nodeId packet wire then findSlot entries (fun entry => entry.id = 0) else none

def reliableTrack {cfg : Kconfig} (nodeId : UInt32) (entries : ReliableTable cfg) (packet : Packet)
    (wire : Octets) (now : Int) (rand : UInt32) : ReliableTable cfg :=
  match reliableTrackSlot nodeId entries packet wire with
  | none => entries
  | some i => Function.update entries i (reliableEntryFor cfg packet wire now rand)

def reliableRoutingSlot {cfg : Kconfig} (nodeId : UInt32) (entries : ReliableTable cfg) (packet : Packet) :
    Option (ReliableSlot cfg) :=
  if packet.portnum ≠ PORT_ROUTING ∨ packet.to_ ≠ nodeId ∨ packet.requestId = 0 then none
  else findSlot entries (fun entry => entry.id = packet.requestId)

def reliableRelease {cfg : Kconfig} (entries : ReliableTable cfg) (i : ReliableSlot cfg) : ReliableTable cfg :=
  Function.update entries i { entries i with id := 0 }

def reliableRoutingReport (codec : Codec) (packet : Packet) (outcome : ReliableOutcome) : ReliableReport :=
  if reliableRoutingIsAck codec packet.payload then { outcome := outcome, type := .txAcked, err := none }
  else { outcome := outcome, type := .txNoAck, err := some .ehostunreach }

def reliableOnRouting {cfg : Kconfig} (codec : Codec) (nodeId : UInt32) (entries : ReliableTable cfg)
    (packet : Packet) : ReliableTable cfg × Option ReliableReport :=
  match reliableRoutingSlot nodeId entries packet with
  | none => (entries, none)
  | some i => (reliableRelease entries i, some (reliableRoutingReport codec packet (entries i).outcome))

/-- What one pass of `reliable_work_fn` does with a slot. -/
inductive WorkAction where
  | idle
  | expire
  | retransmit
  deriving DecidableEq

def workAction (now : Int) (entry : ReliableEntry) : WorkAction :=
  if entry.id = 0 ∨ entry.dueMs > now then .idle
  else if entry.attemptsLeft = 0 then .expire
  else .retransmit

def workEntry (cfg : Kconfig) (now : Int) (rand : UInt32) (entry : ReliableEntry) : ReliableEntry :=
  match workAction now entry with
  | .idle => entry
  | .expire => { entry with id := 0 }
  | .retransmit =>
    { entry with attemptsLeft := entry.attemptsLeft - 1, dueMs := now + reliableRetryDelayMs cfg rand }

def reliableExpiry (outcome : ReliableOutcome) : ReliableReport :=
  { outcome := outcome, type := .txNoAck, err := some .etimedout }

/-- The slots are independent of each other, each with its own draw of the jitter. -/
def reliableWorkTable {cfg : Kconfig} (entries : ReliableTable cfg) (now : Int)
    (rand : ReliableSlot cfg → UInt32) : ReliableTable cfg :=
  fun i => workEntry cfg now (rand i) (entries i)

def workSlots {cfg : Kconfig} (entries : ReliableTable cfg) (now : Int) (action : WorkAction) :
    List (ReliableSlot cfg) :=
  (List.finRange cfg.reliableMaxPending).filter (fun i => workAction now (entries i) = action)

/-- `reliable_work_fn`: the table it leaves, the frames it queues and the outcomes it reports. -/
def reliableWorkFn {cfg : Kconfig} (entries : ReliableTable cfg) (now : Int)
    (rand : ReliableSlot cfg → UInt32) : ReliableTable cfg × List Octets × List ReliableReport :=
  (reliableWorkTable entries now rand,
    (workSlots entries now .retransmit).map (fun i => (entries i).wire),
    (workSlots entries now .expire).map (fun i => reliableExpiry (entries i).outcome))

/-! ## What the operations find -/

theorem findSlot_eq_some {cfg : Kconfig} {entries : ReliableTable cfg} {test : ReliableEntry → Bool}
    {i : ReliableSlot cfg} (found : findSlot entries test = some i) : test (entries i) = true := by
  unfold findSlot at found
  have tested := List.find?_some found
  exact tested

theorem findSlot_eq_none {cfg : Kconfig} {entries : ReliableTable cfg} {test : ReliableEntry → Bool}
    (absent : findSlot entries test = none) (i : ReliableSlot cfg) : test (entries i) = false := by
  have tested := List.find?_eq_none.mp absent i (List.mem_finRange i)
  simpa using tested

theorem reliableTrackSlot_eq_some {cfg : Kconfig} {nodeId : UInt32} {entries : ReliableTable cfg}
    {packet : Packet} {wire : Octets} {i : ReliableSlot cfg}
    (found : reliableTrackSlot nodeId entries packet wire = some i) :
    reliableTrackable nodeId packet wire = true ∧ (entries i).id = 0 := by
  unfold reliableTrackSlot at found
  split_ifs at found with trackable
  exact ⟨trackable, by simpa using findSlot_eq_some found⟩

theorem reliableTrackable_id {nodeId : UInt32} {packet : Packet} {wire : Octets}
    (trackable : reliableTrackable nodeId packet wire = true) : packet.id ≠ 0 := by
  simp only [reliableTrackable, Bool.and_eq_true, decide_eq_true_eq] at trackable
  exact trackable.1.1.1.2

theorem reliableRoutingSlot_eq_some {cfg : Kconfig} {nodeId : UInt32} {entries : ReliableTable cfg}
    {packet : Packet} {i : ReliableSlot cfg} (found : reliableRoutingSlot nodeId entries packet = some i) :
    packet.portnum = PORT_ROUTING ∧ packet.to_ = nodeId ∧ packet.requestId ≠ 0 ∧
      (entries i).id = packet.requestId := by
  unfold reliableRoutingSlot at found
  split_ifs at found with refused
  have matched := findSlot_eq_some found
  simp only [decide_eq_true_eq] at matched
  tauto

theorem reliableRoutingReport_outcome (codec : Codec) (packet : Packet) (outcome : ReliableOutcome) :
    (reliableRoutingReport codec packet outcome).outcome = outcome := by
  unfold reliableRoutingReport
  split_ifs <;> rfl

@[simp] theorem reliableRelease_self {cfg : Kconfig} (entries : ReliableTable cfg) (i : ReliableSlot cfg) :
    (reliableRelease entries i i).id = 0 := by
  simp [reliableRelease]

theorem reliableRelease_of_ne {cfg : Kconfig} (entries : ReliableTable cfg) {i j : ReliableSlot cfg}
    (other : j ≠ i) : reliableRelease entries i j = entries j :=
  Function.update_of_ne other _ _

theorem reliableRelease_pending {cfg : Kconfig} {entries : ReliableTable cfg} {i j : ReliableSlot cfg}
    (pending : (reliableRelease entries i j).id ≠ 0) : j ≠ i ∧ reliableRelease entries i j = entries j := by
  have other : j ≠ i := by
    intro here
    subst here
    exact pending (reliableRelease_self entries j)
  exact ⟨other, reliableRelease_of_ne entries other⟩

end Meshtastic
