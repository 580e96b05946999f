import Meshtastic.Channels
import Meshtastic.Lib.Scan

/-! The table of known nodes of `meshtastic_nodedb.c`: an array of entries that is filled from the front
and, once it is full, recycled. Every packet from another node refreshes or creates the sender's entry. -/

namespace Meshtastic
open Bytes

def PORT_NODE_STATUS : UInt32 := 36
def UINT32_MAX : UInt32 := 0xffffffff

/-! ## Messages. Floating-point readings are kept as their bits. -/

structure UserMessage where
  longName : CString := CString.empty
  shortName : CString := CString.empty
  hwModel : Nat := 0
  role : DeviceRole := .client
  publicKey : Octets := []
  isLicensed : Bool := false
  isUnmessagable : Option Bool := none
  deriving DecidableEq

structure Position where
  latitudeI : Option Int := none
  longitudeI : Option Int := none
  altitude : Option Int := none
  time : UInt32 := 0
  locationSource : Nat := 0
  precisionBits : UInt32 := 0
  deriving DecidableEq

structure DeviceMetrics where
  batteryLevel : Option UInt32 := none
  voltage : Option UInt32 := none
  channelUtilization : Option UInt32 := none
  airUtilTx : Option UInt32 := none
  uptimeSeconds : Option UInt32 := none
  deriving DecidableEq

structure EnvironmentMetrics where
  temperature : Option UInt32 := none
  relativeHumidity : Option UInt32 := none
  barometricPressure : Option UInt32 := none
  gasResistance : Option UInt32 := none
  voltage : Option UInt32 := none
  current : Option UInt32 := none
  iaq : Option UInt16 := none
  distance : Option UInt32 := none
  lux : Option UInt32 := none
  whiteLux : Option UInt32 := none
  irLux : Option UInt32 := none
  uvLux : Option UInt32 := none
  windDirection : Option UInt16 := none
  windSpeed : Option UInt32 := none
  weight : Option UInt32 := none
  windGust : Option UInt32 := none
  windLull : Option UInt32 := none
  radiation : Option UInt32 := none
  rainfall1h : Option UInt32 := none
  rainfall24h : Option UInt32 := none
  soilMoisture : Option UInt8 := none
  soilTemperature : Option UInt32 := none
  oneWireTemperature : List UInt32 := []
  deriving DecidableEq

inductive Telemetry where
  | deviceMetrics (metrics : DeviceMetrics)
  | environmentMetrics (metrics : EnvironmentMetrics)
  | other
  deriving DecidableEq

/-! ## Entries -/

def NODEINFO_BITFIELD_VIA_MQTT_BIT : Nat := 2
def NODEINFO_BITFIELD_HAS_USER_BIT : Nat := 5
def NODEINFO_BITFIELD_IS_LICENSED_BIT : Nat := 6
def NODEINFO_BITFIELD_IS_UNMESSAGABLE_BIT : Nat := 7
def NODEINFO_BITFIELD_HAS_IS_UNMESSAGABLE_BIT : Nat := 8

def writeBit (word : BitVec 32) (bit : Nat) (set : Bool) : BitVec 32 :=
  if set then word ||| BitVec.twoPow 32 bit else word &&& ~~~(BitVec.twoPow 32 bit)

def isBitSet (word : BitVec 32) (bit : Nat) : Bool := word.getLsbD bit

structure NodeInfoLite where
  num : UInt32 := 0
  lastHeard : UInt32 := 0
  snr : Int := 0
  channel : UInt8 := 0
  nextHop : UInt8 := 0
  bitfield : BitVec 32 := 0
  hopsAway : Option UInt8 := none
  longName : CString := CString.empty
  shortName : CString := CString.empty
  hwModel : UInt8 := 0
  role : UInt8 := 0
  publicKey : Octets := []

structure PositionLite where
  latitudeI : Int
  longitudeI : Int
  altitude : Int
  time : UInt32
  locationSource : Nat
  precisionBits : UInt32
  deriving DecidableEq

structure NodeEntry where
  used : Bool := false
  node : NodeInfoLite := {}
  position : Option PositionLite := none
  deviceMetrics : Option DeviceMetrics := none
  environmentMetrics : Option EnvironmentMetrics := none
  status : Option CString := none

def applyUser (entry : NodeEntry) (user : UserMessage) : NodeEntry :=
  let bits := writeBit entry.node.bitfield NODEINFO_BITFIELD_HAS_USER_BIT true
  let bits := writeBit bits NODEINFO_BITFIELD_IS_LICENSED_BIT user.isLicensed
  let bits := writeBit bits NODEINFO_BITFIELD_HAS_IS_UNMESSAGABLE_BIT user.isUnmessagable.isSome
  let bits := writeBit bits NODEINFO_BITFIELD_IS_UNMESSAGABLE_BIT (user.isUnmessagable.getD false)
  { entry with
    node :=
      { entry.node with
        longName := user.longName.truncate 24
        shortName := user.shortName.truncate 4
        hwModel := UInt8.ofNat user.hwModel
        role := UInt8.ofNat user.role.toNat
        publicKey := user.publicKey.take 32
        bitfield := bits } }

def PositionLite.ofMessage (position : Position) : PositionLite :=
  { latitudeI := position.latitudeI.getD 0
    longitudeI := position.longitudeI.getD 0
    altitude := position.altitude.getD 0
    time := position.time
    locationSource := position.locationSource
    precisionBits := position.precisionBits }

def applyPosition (entry : NodeEntry) (position : Position) : NodeEntry :=
  { entry with position := some (.ofMessage position) }

def packetHopsAway (packet : Packet) : Option UInt8 :=
  if packet.hopStart = 0 ∨ packet.hopStart < packet.hopLimit then none
  else some (packet.hopStart - packet.hopLimit)

def applyBasicPacket (entry : NodeEntry) (packet : Packet) (nowSec : UInt32) : NodeEntry :=
  { entry with
    node :=
      { entry.node with
        lastHeard := nowSec
        snr := packet.snr
        channel := if packet.channelIndex ≠ CHANNEL_INDEX_INVALID then packet.channelIndex else 0
        nextHop := packet.nextHop
        bitfield := writeBit entry.node.bitfield NODEINFO_BITFIELD_VIA_MQTT_BIT packet.viaMqtt
        hopsAway :=
          match packetHopsAway packet with
          | some hops => some hops
          | none => entry.node.hopsAway } }

/-! ## The table -/

structure NodeDb (size : Nat) where
  entries : Fin size → NodeEntry
  count : Nat

/-- The array size with the range Kconfig gives it, what the stack knows about its own node, and nanopb. -/
structure NodeDbEnv where
  maxNodes : Nat
  maxNodes_range : 1 ≤ maxNodes ∧ maxNodes ≤ 256
  nodeId : UInt32
  longName : CString
  shortName : CString
  hwModel : Nat
  deviceRole : DeviceRole
  decodeUser : Octets → Option UserMessage
  decodePosition : Octets → Option Position
  decodeTelemetry : Octets → Option Telemetry
  decodeStatus : Octets → Option CString

namespace NodeDb
variable {size : Nat}

def entryIs (db : NodeDb size) (nodeNum : UInt32) (i : Fin size) : Bool :=
  i.val < db.count && (db.entries i).used && (db.entries i).node.num == nodeNum

def findEntry (db : NodeDb size) (nodeNum : UInt32) : Option (Fin size) :=
  (List.finRange size).find? (db.entryIs nodeNum)

def evictable (db : NodeDb size) (nodeId : UInt32) (i : Fin size) : Bool :=
  i.val < db.count && (db.entries i).used && (db.entries i).node.num != nodeId

def oldestEvictableIndex (db : NodeDb size) (nodeId : UInt32) : Option (Fin size) :=
  Scan.firstLeast (fun i => (db.entries i).node.lastHeard.toNat) UINT32_MAX.toNat
    ((List.finRange size).filter (db.evictable nodeId))

def withEntry (db : NodeDb size) (i : Fin size) (entry : NodeEntry) : NodeDb size :=
  { db with entries := Function.update db.entries i entry }

def freshEntry (nodeNum : UInt32) : NodeEntry := { used := true, node := { num := nodeNum } }

/-- `get_or_create_entry_locked`: the place of the entry, if there is one, and the table with it. -/
def getOrCreateEntry (db : NodeDb size) (nodeId nodeNum : UInt32) : Option (Fin size) × NodeDb size :=
  if nodeNum = 0 then (none, db)
  else
    match db.findEntry nodeNum with
    | some i => (some i, db)
    | none =>
      if room : db.count < size then
        let i : Fin size := ⟨db.count, room⟩
        (some i, { db with count := db.count + 1 }.withEntry i (freshEntry nodeNum))
      else
        match db.oldestEvictableIndex nodeId with
        | none => (none, db)
        | some i => (some i, db.withEntry i (freshEntry nodeNum))

end NodeDb

/-! ## Packets -/

section
variable (env : NodeDbEnv)

/-- `decode_user_payload` and its three siblings. -/
def decodePayload {Message : Type} (decode : Octets → Option Message) (packet : Packet) : Option Message :=
  if packet.payload = [] then none else decode packet.payload

def packetUser (packet : Packet) : Option UserMessage :=
  if packet.portnum = PORT_NODEINFO then decodePayload env.decodeUser packet else none

def packetPosition (packet : Packet) : Option Position :=
  if packet.portnum = PORT_POSITION then
    if packet.wantResponse then none else decodePayload env.decodePosition packet
  else none

def packetTelemetry (packet : Packet) : Option Telemetry :=
  if packet.portnum = PORT_TELEMETRY then decodePayload env.decodeTelemetry packet else none

def packetStatus (packet : Packet) : Option CString :=
  if packet.portnum = PORT_NODE_STATUS then decodePayload env.decodeStatus packet else none

def applyTelemetry (entry : NodeEntry) : Telemetry → NodeEntry
  | .deviceMetrics metrics => { entry with deviceMetrics := some metrics }
  | .environmentMetrics metrics => { entry with environmentMetrics := some metrics }
  | .other => entry

def applyPacket (entry : NodeEntry) (packet : Packet) (nowSec : UInt32) : NodeEntry :=
  let entry := applyBasicPacket entry packet nowSec
  let entry := (packetUser env packet).elim entry (applyUser entry)
  let entry := (packetPosition env packet).elim entry (applyPosition entry)
  let entry := (packetTelemetry env packet).elim entry (applyTelemetry entry)
  (packetStatus env packet).elim entry (fun status => { entry with status := some status })

def uptimeSeconds (uptimeMs : Nat) : UInt32 := UInt32.ofNat (uptimeMs / 1000)

/-- `meshtastic_module_nodedb_on_packet`; `none` is a NULL pointer. -/
def nodedbOnPacket (db : NodeDb env.maxNodes) (packet : Option Packet) (uptimeMs : Nat) : NodeDb env.maxNodes :=
  match packet with
  | none => db
  | some packet =>
    if packet.from_ = 0 ∨ packet.from_ = env.nodeId then db
    else
      match db.getOrCreateEntry env.nodeId packet.from_ with
      | (none, db) => db
      | (some i, db) => db.withEntry i (applyPacket env (db.entries i) packet (uptimeSeconds uptimeMs))

/-- What `meshtastic_fill_user` gives, as far as the table reads it. -/
def localUser : UserMessage :=
  { longName := env.longName.truncate 39
    shortName := env.shortName.truncate 4
    hwModel := env.hwModel
    role := env.deviceRole }

def nodedbInit (uptimeMs : Nat) : Option Errno × NodeDb env.maxNodes :=
  match ({ entries := fun _ => {}, count := 0 } : NodeDb env.maxNodes).getOrCreateEntry env.nodeId env.nodeId with
  | (none, db) => (some .enomem, db)
  | (some i, db) =>
    let entry := db.entries i
    let entry := { entry with node := { entry.node with lastHeard := uptimeSeconds uptimeMs } }
    (none, db.withEntry i (applyUser entry (localUser env)))

end

/-! ## Snapshots -/

structure NodePosition where
  latitudeI : Int
  longitudeI : Int
  altitude : Int
  time : UInt32
  locationSource : UInt8
  precisionBits : UInt32
  deriving DecidableEq

structure NodeBasic where
  lastHeardUptimeSec : UInt32 := 0
  snr : Int := 0
  channel : UInt8 := 0
  nextHop : UInt8 := 0
  viaMqtt : Bool := false
  deriving DecidableEq

structure NodeUser where
  hasUser : Bool := false
  longName : CString := CString.empty
  shortName : CString := CString.empty
  hwModel : UInt8 := 0
  role : UInt8 := 0
  isLicensed : Bool := false
  hasIsUnmessagable : Bool := false
  isUnmessagable : Bool := false
  publicKey : Octets := []
  deriving DecidableEq

structure NodeSnapshot extends NodeBasic, NodeUser where
  num : UInt32
  hopsAway : Option UInt8
  position : Option NodePosition
  deviceMetrics : Option DeviceMetrics
  environmentMetrics : Option EnvironmentMetrics
  status : Option CString
  deriving DecidableEq

def snapshotPosition (position : PositionLite) : NodePosition :=
  { latitudeI := position.latitudeI
    longitudeI := position.longitudeI
    altitude := position.altitude
    time := position.time
    locationSource := UInt8.ofNat position.locationSource
    precisionBits := position.precisionBits }

/-- `copy_environment_metrics`: the readings as they are, at most eight one-wire temperatures. -/
def copyEnvironmentMetrics (metrics : EnvironmentMetrics) : EnvironmentMetrics :=
  { metrics with oneWireTemperature := metrics.oneWireTemperature.take 8 }

def fillSnapshot (entry : NodeEntry) : NodeSnapshot :=
  { num := entry.node.num
    lastHeardUptimeSec := entry.node.lastHeard
    snr := entry.node.snr
    channel := entry.node.channel
    nextHop := entry.node.nextHop
    viaMqtt := isBitSet entry.node.bitfield NODEINFO_BITFIELD_VIA_MQTT_BIT
    hopsAway := entry.node.hopsAway
    hasUser := isBitSet entry.node.bitfield NODEINFO_BITFIELD_HAS_USER_BIT
    longName := entry.node.longName.truncate 24
    shortName := entry.node.shortName.truncate 4
    hwModel := entry.node.hwModel
    role := entry.node.role
    isLicensed := isBitSet entry.node.bitfield NODEINFO_BITFIELD_IS_LICENSED_BIT
    hasIsUnmessagable := isBitSet entry.node.bitfield NODEINFO_BITFIELD_HAS_IS_UNMESSAGABLE_BIT
    isUnmessagable := isBitSet entry.node.bitfield NODEINFO_BITFIELD_IS_UNMESSAGABLE_BIT
    publicKey := entry.node.publicKey.take 32
    position := entry.position.map snapshotPosition
    deviceMetrics := entry.deviceMetrics
    environmentMetrics := entry.environmentMetrics.map copyEnvironmentMetrics
    status := entry.status.map (·.truncate 79) }

def nodedbGet {size : Nat} (db : NodeDb size) (nodeNum : UInt32) : Except Errno NodeSnapshot :=
  match db.findEntry nodeNum with
  | none => .error .enoent
  | some i => .ok (fillSnapshot (db.entries i))

def nodedbGetByIndex {size : Nat} (db : NodeDb size) (index : Nat) : Except Errno NodeSnapshot :=
  if inside : index < size then
    if db.count ≤ index ∨ (db.entries ⟨index, inside⟩).used = false then .error .enoent
    else .ok (fillSnapshot (db.entries ⟨index, inside⟩))
  else .error .enoent

/-! ## Runs -/

/-- A packet with the uptime at which it is given to the module. -/
structure Heard where
  packet : Packet
  uptimeMs : Nat

def nodedbStep (env : NodeDbEnv) (db : NodeDb env.maxNodes) (heard : Heard) : NodeDb env.maxNodes :=
  nodedbOnPacket env db (some heard.packet) heard.uptimeMs

def nodedbAfter (env : NodeDbEnv) (startMs : Nat) (history : List Heard) : NodeDb env.maxNodes :=
  history.foldl (nodedbStep env) (nodedbInit env startMs).2

end Meshtastic
