import Meshtastic.Frames
import Meshtastic.NodeRules

/-! Several nodes within reach of each other's radios. The radio loses, delays, repeats and
reorders frames: what one node has handed over can reach another at any later time, any number
of times, or never. -/

namespace Meshtastic
open Bytes

/-- Nodes by name, and the log of what all of them have done, newest first. -/
structure Network (cfg : Kconfig) (Name : Type) where
  nodes : Name → Node cfg
  log : List Record

structure Call (cfg : Kconfig) (Name : Type) where
  who : Name
  request : Request cfg

section
variable {cfg : Kconfig} {Name : Type}

def Network.node (net : Network cfg Name) (who : Name) : Node cfg := { net.nodes who with log := net.log }

def audible (log : List Record) (listener : UInt32) (frame : Octets) : Bool :=
  log.any (fun record => record.node != listener && record.effect == .handed frame)

/-- A node receives nothing but audible frames. -/
def Network.hears (net : Network cfg Name) (call : Call cfg Name) : Bool :=
  match call.request with
  | .receive frame _ _ _ => audible net.log (net.nodes call.who).nodeId frame
  | _ => true

def Network.step [DecidableEq Name] (codec : Codec) (boards : Name → Board) (net : Network cfg Name)
    (call : Call cfg Name) : Option (Network cfg Name) :=
  if net.hears call = false then none
  else
    ((net.node call.who).step codec (boards call.who) call.request).map fun node =>
      { nodes := Function.update net.nodes call.who node, log := node.log }

/-- Nodes with different ids and one channel table, whose hashes tell its keys apart. -/
structure Mesh (Name : Type) where
  ids : Name → UInt32
  table : ChannelTable
  distinct : Function.Injective ids
  nonzero : ∀ who, ids who ≠ 0
  keyed : table.KeyedByHash

def Mesh.Holds (mesh : Mesh Name) (net : Network cfg Name) : Prop :=
  ∀ who, (net.nodes who).nodeId = mesh.ids who ∧ (net.nodes who).table = mesh.table

/-- Nothing has been sent, heard or tracked yet. Roles, modes and counters are arbitrary. -/
structure Mesh.Starts (mesh : Mesh Name) (net : Network cfg Name) : Prop where
  holds : mesh.Holds net
  log : net.log = []
  unheard : ∀ who i, (net.nodes who).dupCache i = (0, 0)
  untracked : ∀ who i, ((net.nodes who).entries i).id = 0

/-- What applications and phones send: messages of their own node that are not ROUTING. -/
def plainMessage (nodeId portnum from_ : UInt32) : Bool :=
  portnum != PORT_ROUTING && (from_ == 0 || from_ == nodeId)

/-- The request keeps to plain messages that the stack encrypts itself, and there is no MQTT gateway. -/
def Request.plain (nodeId : UInt32) : Request cfg → Bool
  | .send packet _ _ => plainMessage nodeId packet.portnum packet.from_
  | .phone mesh _ =>
    match mesh.payload with
    | .decoded data => plainMessage nodeId data.portnum mesh.from_
    | .encrypted _ => false
    | .unset _ => true
  | .inject _ _ => false
  | _ => true

/-- Plain calls that leave node ids and channel tables as they are. Nodes may restart and may change
role, mode and hop limit at any time. -/
def Mesh.Allows [DecidableEq Name] (mesh : Mesh Name) (codec : Codec) (boards : Name → Board)
    (net : Network cfg Name) (call : Call cfg Name) : Prop :=
  call.request.plain (mesh.ids call.who) = true ∧
    (call.request.isAdmin = true → ∀ next, net.step codec boards call = some next → mesh.Holds next)

def builtBy (nodeId : UInt32) (log : List Record) : List Packet :=
  log.filterMap fun record =>
    match record.effect with
    | .built packet _ _ => if record.node = nodeId then some packet else none
    | _ => none

/-- The node gives no id to two packets. -/
def OnePacketPerId (nodeId : UInt32) (log : List Record) : Prop :=
  ∀ packet ∈ builtBy nodeId log, ∀ other ∈ builtBy nodeId log, packet.id = other.id → packet = other

theorem mem_builtBy {nodeId : UInt32} {log : List Record} {packet : Packet} {key wire : Octets}
    (member : ⟨nodeId, .built packet key wire⟩ ∈ log) : packet ∈ builtBy nodeId log :=
  List.mem_filterMap.mpr ⟨_, member, if_pos rfl⟩

/-- The packet that arrived is the one that was sent. -/
structure Arrived (sent packet : Packet) : Prop where
  from_ : packet.from_ = sent.from_
  to_ : packet.to_ = sent.to_
  id : packet.id = sent.id
  portnum : packet.portnum = sent.portnum
  payload : packet.payload = sent.payload

/-- What a receiver does with a packet when it takes it as new: it delivers it, or withholds it, in
CORE_PORTNUMS_ONLY on a port that is not a core port and in KNOWN_ONLY while its NodeDB does not know the sender. -/
inductive Takes (sent : Packet) : Effect → Prop
  | delivered {packet : Packet} (arrived : Arrived sent packet) : Takes sent (.delivered packet)
  | dropped {packet : Packet} (arrived : Arrived sent packet) (port : isCorePort sent.portnum = false) :
      Takes sent (.dropped packet .corePortnumsOnly)
  | unknown {packet : Packet} (from_ : packet.from_ = sent.from_) (id : packet.id = sent.id) :
      Takes sent (.undecoded packet .knownOnly false)

end

end Meshtastic
