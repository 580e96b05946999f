import Meshtastic.ConfigStore
import Meshtastic.Lib.Deque
import Meshtastic.Mqtt

/-! The phone API of `meshtastic_phoneapi.c` and `meshtastic_phoneapi_config.c`: a ring of FromRadio
frames with one held frame beside it, and the configuration handshake that makes its frames one by
one when the ring is empty. -/

namespace Meshtastic
open Bytes

def API_FRAME_MAX : Nat := 512

/-! ## Messages -/

inductive ConfigTag where
  | device
  | position
  | power
  | network
  | display
  | lora
  | bluetooth
  | security
  | sessionkey
  | deviceUi
  deriving DecidableEq

/-- The sections of `meshtastic_ModuleConfig`, in the order of `module_names`. The store only copies
their contents. -/
inductive ModuleTag where
  | mqtt
  | serial
  | externalNotification
  | storeForward
  | rangeTest
  | telemetry
  | cannedMessage
  | audio
  | remoteHardware
  | neighborInfo
  | ambientLighting
  | detectionSensor
  | paxcounter
  | statusmessage
  | trafficManagement
  | tak
  deriving DecidableEq

structure User where
  id : CString
  longName : CString
  shortName : CString
  macaddr : Octets
  hwModel : Nat
  role : DeviceRole
  deriving DecidableEq

structure MyNodeInfo where
  myNodeNum : UInt32
  minAppVersion : UInt32 := 0
  nodedbCount : UInt32 := 1
  deviceId : Octets
  pioEnv : CString
  deriving DecidableEq

structure DeviceMetadata where
  firmwareVersion : CString
  hasBluetooth : Bool
  role : DeviceRole
  hwModel : Nat
  deriving DecidableEq

structure QueueStatus where
  res : Int8 := 0
  free : UInt8
  maxlen : UInt8
  meshPacketId : UInt32 := 0
  deriving DecidableEq

inductive FromRadioPayload where
  | packet (mesh : ReportedMeshPacket)
  | myInfo (info : MyNodeInfo)
  | nodeInfo (num : UInt32) (user : User)
  | config (section_ : Config)
  | configCompleteId (nonce : UInt32)
  | rebooted
  | moduleConfig (section_ : ModuleTag)
  | channel (channel : Channel)
  | queueStatus (status : QueueStatus)
  | metadata (info : DeviceMetadata)
  | deviceuiConfig (section_ : Config)
  | other (tag : Nat) (bytes : Octets)
  deriving DecidableEq

structure FromRadio where
  id : UInt32 := 0
  payload : FromRadioPayload
  deriving DecidableEq

/-- `struct meshtastic_phoneapi_frame`. `generated` is no field of the source and nothing reads it: it
remembers, for the frames of the configuration handshake, the message that was encoded. -/
structure ApiFrame where
  data : Octets
  generated : Option FromRadioPayload := none
  fits : data.length ≤ API_FRAME_MAX
  deriving DecidableEq

def ApiFrame.blank : ApiFrame := ⟨[], none, by decide⟩

/-- `meshtastic_phoneapi_encode_fromradio_frame`; `encode` is nanopb's serialisation. -/
def encodeFromradioFrame (encode : FromRadio → Option Octets) (message : FromRadio) : Except Errno ApiFrame :=
  match encode message with
  | none => .error .enomem
  | some data => if fits : data.length ≤ API_FRAME_MAX then .ok ⟨data, none, fits⟩ else .error .enomem

/-! ## The store's getters -/

def configNames : List ConfigTag :=
  [.device, .position, .power, .network, .display, .lora, .bluetooth, .security, .sessionkey, .deviceUi]

def moduleNames : List ModuleTag :=
  [.mqtt, .serial, .externalNotification, .storeForward, .rangeTest, .telemetry, .cannedMessage, .audio,
    .remoteHardware, .neighborInfo, .ambientLighting, .detectionSensor, .paxcounter, .statusmessage,
    .trafficManagement, .tak]

/-- `store.configs`: the section kept under a tag. -/
def Store.configs (store : Store) : ConfigTag → Config
  | .device => .device store.device
  | .position => .position
  | .power => .power
  | .network => .network
  | .display => .display
  | .lora => .lora store.lora
  | .bluetooth => .bluetooth store.bluetooth
  | .security => .security
  | .sessionkey => .sessionkey
  | .deviceUi => .deviceUi

def configStoreGetConfig (store : Store) (tag : ConfigTag) : Except Errno Config :=
  if tag ∈ configNames then .ok (store.configs tag) else .error .einval

def configStoreGetModule (tag : ModuleTag) : Except Errno ModuleTag :=
  if tag ∈ moduleNames then .ok tag else .error .einval

def configStoreGetChannel (store : Store) (index : Nat) : Except Errno Channel :=
  if h : index < MAX_CHANNELS then .ok (store.channels ⟨index, h⟩) else .error .einval

/-! ## The configuration frames -/

inductive PhoneConfigState where
  | idle
  | myInfo
  | deviceUi
  | nodeInfo
  | metadata
  | channels
  | configs
  | modules
  | queueStatus
  | complete
  deriving DecidableEq

/-- The handshake's position: `config_state`, `config_index` and `config_request_id`. -/
structure ConfigCursor where
  state : PhoneConfigState := .idle
  index : UInt8 := 0
  requestId : UInt32 := 0
  deriving DecidableEq

/-- What the handshake reads of the rest of the node while it makes one frame. `fromradioId` is the
number `meshtastic_next_fromradio_id` gives. -/
structure PhoneSources where
  fromradioId : UInt32
  nodeId : UInt32
  longName : CString
  shortName : CString
  deviceRole : DeviceRole
  hwModel : Nat
  hasBluetooth : Bool
  store : Store

def PIO_ENV : CString := ⟨[0x7a, 0x65, 0x70, 0x68, 0x79, 0x72], by decide⟩
def FIRMWARE_VERSION : CString := ⟨PIO_ENV.bytes ++ [0x2e, 0x31, 0x32, 0x33], by decide⟩

def configTags : List ConfigTag :=
  [.device, .position, .power, .network, .display, .lora, .bluetooth, .security, .sessionkey, .deviceUi]

def moduleTags : List ModuleTag :=
  [.mqtt, .serial, .externalNotification, .storeForward, .rangeTest, .telemetry, .cannedMessage, .audio,
    .remoteHardware, .neighborInfo, .ambientLighting, .detectionSensor, .paxcounter, .statusmessage,
    .trafficManagement, .tak]

section
variable (encode : FromRadio → Option Octets) (sources : PhoneSources)

def fillUser : User :=
  let node := sources.nodeId.toNat
  { id := mqttNodeIdStr sources.nodeId
    longName := sources.longName.truncate 39
    shortName := sources.shortName.truncate 4
    macaddr := [0x02, 0x00, UInt8.ofNat (node / 2 ^ 24), UInt8.ofNat (node / 2 ^ 16), UInt8.ofNat (node / 2 ^ 8),
      UInt8.ofNat node]
    hwModel := sources.hwModel
    role := sources.deviceRole }

def fillMyInfo : FromRadio :=
  { id := sources.fromradioId
    payload := .myInfo { myNodeNum := sources.nodeId, deviceId := le32 sources.nodeId, pioEnv := PIO_ENV } }

def fillDeviceUi : FromRadio :=
  { id := sources.fromradioId
    payload := .deviceuiConfig (match configStoreGetConfig sources.store .deviceUi with
      | .ok config => config
      | .error _ => .deviceUi) }

def fillNodeInfo : FromRadio :=
  { id := sources.fromradioId, payload := .nodeInfo sources.nodeId (fillUser sources) }

def fillMetadataFrame : FromRadio :=
  { id := sources.fromradioId, payload := .metadata
      { firmwareVersion := FIRMWARE_VERSION
        hasBluetooth := sources.hasBluetooth
        role := sources.deviceRole
        hwModel := sources.hwModel } }

def fillChannel (index : Nat) : FromRadio :=
  let channel := match configStoreGetChannel sources.store index with
    | .ok slot =>
      if slot.role ≠ .disabled then { slot with index := index }
      else { index := index, role := .disabled, hasSettings := true }
    | .error _ => { index := index, role := .disabled, hasSettings := true }
  { id := sources.fromradioId, payload := .channel channel }

def fillConfigVariant (tag : ConfigTag) : Except Errno FromRadio :=
  (configStoreGetConfig sources.store tag).map
    (fun config => { id := sources.fromradioId, payload := .config config })

def fillModuleVariant (tag : ModuleTag) : Except Errno FromRadio :=
  (configStoreGetModule tag).map
    (fun module => { id := sources.fromradioId, payload := .moduleConfig module })

def fillQueueStatus (queueSize count : UInt8) : FromRadio :=
  { id := sources.fromradioId
    payload := .queueStatus
      { free := if count ≥ queueSize then 0 else queueSize - count, maxlen := queueSize } }

def fillComplete (requestId : UInt32) : FromRadio :=
  { id := sources.fromradioId, payload := .configCompleteId requestId }

/-- `emit_frame`: the position moves only when the message could be encoded. -/
def emitFrame (cursor : ConfigCursor) (message : FromRadio) (state : PhoneConfigState) (index : UInt8) :
    Except Errno ApiFrame × ConfigCursor :=
  match encodeFromradioFrame encode message with
  | .error err => (.error err, cursor)
  | .ok frame =>
    (.ok { frame with generated := some message.payload }, { cursor with state := state, index := index })

def firstSection {Tag : Type} (fill : Tag → Except Errno FromRadio) : List Tag → UInt8 → Option (FromRadio × UInt8)
  | [], _ => none
  | tag :: rest, index =>
    match fill tag with
    | .ok message => some (message, index)
    | .error _ => firstSection fill rest (index + 1)

def sectionAfter (here next : PhoneConfigState) (length : Nat) (index : UInt8) : PhoneConfigState × UInt8 :=
  if index.toNat + 1 ≥ length then (next, 0) else (here, index + 1)

def queueStatusFrame (queueSize count : UInt8) (cursor : ConfigCursor) : Except Errno ApiFrame × ConfigCursor :=
  emitFrame encode cursor (fillQueueStatus sources queueSize count) .complete 0

/-- One of the two lists of sections: the first section the store gives is emitted, and when none is
left the outer loop goes on with the next state. -/
def sectionFrame {Tag : Type} (fill : Tag → Except Errno FromRadio) (tags : List Tag) (here next : PhoneConfigState)
    (goOn : ConfigCursor → Except Errno ApiFrame × ConfigCursor) (cursor : ConfigCursor) :
    Except Errno ApiFrame × ConfigCursor :=
  match firstSection fill (tags.drop cursor.index.toNat) cursor.index with
  | some (message, index) =>
    let after := sectionAfter here next tags.length index
    emitFrame encode { cursor with index := index } message after.1 after.2
  | none => goOn { cursor with state := next, index := 0 }

def modulesFrame (queueSize count : UInt8) (cursor : ConfigCursor) : Except Errno ApiFrame × ConfigCursor :=
  sectionFrame encode (fillModuleVariant sources) moduleTags .modules .queueStatus
    (queueStatusFrame encode sources queueSize count) cursor

def configsFrame (queueSize count : UInt8) (cursor : ConfigCursor) : Except Errno ApiFrame × ConfigCursor :=
  sectionFrame encode (fillConfigVariant sources) configTags .configs .modules
    (modulesFrame encode sources queueSize count) cursor

/-- `meshtastic_phoneapi_next_config_frame`. Its outer loop goes round only where a list of sections is
exhausted without a frame. -/
def nextConfigFrame (queueSize count : UInt8) (cursor : ConfigCursor) : Except Errno ApiFrame × ConfigCursor :=
  match cursor.state with
  | .idle => (.error .enoent, cursor)
  | .myInfo => emitFrame encode cursor (fillMyInfo sources) .deviceUi 0
  | .deviceUi => emitFrame encode cursor (fillDeviceUi sources) .nodeInfo 0
  | .nodeInfo => emitFrame encode cursor (fillNodeInfo sources) .metadata 0
  | .metadata => emitFrame encode cursor (fillMetadataFrame sources) .channels 0
  | .channels =>
    let after := sectionAfter .channels .configs MAX_CHANNELS cursor.index
    emitFrame encode cursor (fillChannel sources cursor.index.toNat) after.1 after.2
  | .configs => configsFrame encode sources queueSize count cursor
  | .modules => modulesFrame encode sources queueSize count cursor
  | .queueStatus => queueStatusFrame encode sources queueSize count cursor
  | .complete => emitFrame encode cursor (fillComplete sources cursor.requestId) .idle 0

end

/-! ## The ring and the held frame -/

/-- `struct meshtastic_phoneapi`. `queue` is the memory of the frames by index. -/
structure PhoneApi where
  queue : Nat → ApiFrame
  current : ApiFrame
  queueSize : UInt8
  head : UInt8 := 0
  tail : UInt8 := 0
  count : UInt8 := 0
  currentValid : Bool := false
  fromNum : UInt32 := 0
  cursor : ConfigCursor := {}

def phoneapiInit (queue : Nat → ApiFrame) (queueSize : UInt8) : PhoneApi :=
  { queue := queue, current := ApiFrame.blank, queueSize := queueSize }

namespace PhoneApi

def configActive (api : PhoneApi) : Bool := api.cursor.state ≠ .idle

def after (api : PhoneApi) (index : UInt8) : UInt8 :=
  UInt8.ofNat ((index.toNat + 1) % api.queueSize.toNat)

def before (api : PhoneApi) (index : UInt8) : UInt8 :=
  UInt8.ofNat ((index.toNat + api.queueSize.toNat - 1) % api.queueSize.toNat)

def reset (api : PhoneApi) : PhoneApi :=
  { api with head := 0, tail := 0, count := 0, currentValid := false, cursor := {}, fromNum := 0 }

def pendingCount (api : PhoneApi) : UInt32 :=
  api.count.toUInt32 + (if api.currentValid then 1 else 0) + (if api.configActive then 1 else 0)

section
variable (encode : FromRadio → Option Octets) (sources : PhoneSources)

def popFrame (api : PhoneApi) : PhoneApi × Option ApiFrame :=
  if api.count = 0 then
    if api.configActive then
      match nextConfigFrame encode sources api.queueSize api.count api.cursor with
      | (.ok frame, cursor) => ({ api with cursor := cursor }, some frame)
      | (.error _, cursor) => ({ api with cursor := cursor }, none)
    else (api, none)
  else
    ({ api with tail := api.after api.tail, count := api.count - 1 }, some (api.queue api.tail.toNat))

def pushFrameFront (api : PhoneApi) (frame : ApiFrame) : PhoneApi :=
  let api :=
    if api.count = api.queueSize then { api with head := api.before api.head, count := api.count - 1 } else api
  let tail := api.before api.tail
  { api with tail := tail, queue := Function.update api.queue tail.toNat frame, count := api.count + 1 }

/-- What a failed encoding leaves in `current` is not read, `currentValid` being false. -/
def currentFrame (api : PhoneApi) : PhoneApi × Option ApiFrame :=
  let api :=
    if api.currentValid = false ∧ api.count > 0 then
      { api with
        current := api.queue api.tail.toNat
        tail := api.after api.tail
        count := api.count - 1
        currentValid := true }
    else if api.currentValid = false ∧ api.configActive then
      match nextConfigFrame encode sources api.queueSize api.count api.cursor with
      | (.ok frame, cursor) => { api with cursor := cursor, current := frame, currentValid := true }
      | (.error _, cursor) => { api with cursor := cursor }
    else api
  (api, if api.currentValid then some api.current else none)

def releaseCurrentFrame (api : PhoneApi) : PhoneApi := { api with currentValid := false }

def currentFrameReset (api : PhoneApi) : PhoneApi := { api with currentValid := false }

def enqueueFromradio (api : PhoneApi) (message : FromRadio) : PhoneApi × Option Errno :=
  match encodeFromradioFrame encode message with
  | .error err => (api, some err)
  | .ok frame =>
    let api :=
      if api.count = api.queueSize then { api with tail := api.after api.tail, count := api.count - 1 } else api
    ({ api with
        queue := Function.update api.queue api.head.toNat frame
        head := api.after api.head
        count := api.count + 1 }, none)

/-- `meshtastic_phoneapi_enqueue_phone_config`, before its two callbacks. -/
def enqueuePhoneConfig (api : PhoneApi) (requestId : UInt32) : PhoneApi :=
  { api with
    head := 0
    tail := 0
    count := 0
    currentValid := false
    cursor := { state := .myInfo, index := 0, requestId := requestId } }

end

end PhoneApi

/-! ## Values for examples -/

def plainStore : Store where
  longName := CHANNEL_DEFAULT
  shortName := CHANNEL_DEFAULT.truncate 4
  channels := fun _ => {}
  device := {}
  lora := {}
  bluetooth := {}

def plainSources : PhoneSources where
  fromradioId := 1
  nodeId := 0x11
  longName := CHANNEL_DEFAULT
  shortName := CHANNEL_DEFAULT
  deviceRole := .client
  hwModel := 0
  hasBluetooth := true
  store := plainStore

def numberOnly (message : FromRadio) : Option Octets := some (le32 message.id)

def liveMessage (id : UInt32) : FromRadio := { id := id, payload := .rebooted }

def liveFrame (id : UInt32) : ApiFrame := ⟨le32 id, none, by simp [API_FRAME_MAX]⟩

end Meshtastic
