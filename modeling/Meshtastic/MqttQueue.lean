import Meshtastic.Lib.Deque
import Meshtastic.Lib.Run
import Meshtastic.MqttChannels

/-! The publish queue of the MQTT gateway as the ring in `mqtt_ctx`, which the callers of the hooks fill
and the MQTT thread drains. What runs with `mqtt_ctx.lock` held is one step. -/

namespace Meshtastic
open Bytes

/-- The ring in `mqtt_ctx`; its indices stay below the size of the array. -/
structure MqttQueue where
  queue : Nat → MqttPubEntry
  queueHead : Nat
  queueTail : Nat
  queueCount : Nat

structure DrainCall where
  maxPublish : Int
  published : Int
  deriving DecidableEq

/-- `mqtt_ctx`, and the call of `mqtt_drain_queue` the MQTT thread is in. `inserted` and `flushed` list what
has been queued and what has been handed to `mqtt_do_publish` since the beginning of time, oldest first; the
code keeps neither. -/
structure MqttCtx (Queue : Type) where
  queue : Queue
  connected : Bool
  draining : Option DrainCall
  inserted : List MqttPubEntry
  flushed : List MqttPubEntry

/-- A call of `mqtt_queue_uplink` or `mqtt_queue_publish`. `torn` is what an encoder that runs out of room
leaves in the payload of the entry. -/
inductive Insertion (cfg : Kconfig) where
  | uplink (node : Node cfg) (packet : Packet) (wire torn : Octets)
  | publish (topic : CString) (payload : Octets)

/-- What happens to `mqtt_ctx`: an insertion by any thread, the MQTT thread entering `mqtt_drain_queue` or
going once round its loop, and the connection being made or lost. -/
inductive QueueAction (cfg : Kconfig) where
  | insert (call : Insertion cfg)
  | drain (maxPublish : Int)
  | drainStep
  | connected (now : Bool)

/-- What may be done to the queue with the lock held: insert, answering what has been queued, and take out
the oldest entry. -/
structure QueueImpl (cfg : Kconfig) (Queue : Type) where
  insert : Queue → Insertion cfg → Queue × Option MqttPubEntry
  take : Queue → Option (MqttPubEntry × Queue)

def MqttCtx.step {cfg : Kconfig} {Queue : Type} (impl : QueueImpl cfg Queue) (ctx : MqttCtx Queue) :
    QueueAction cfg → Option (MqttCtx Queue)
  | .insert call =>
    let next := impl.insert ctx.queue call
    some { ctx with queue := next.1, inserted := ctx.inserted ++ next.2.toList }
  | .connected now => some { ctx with connected := now }
  | .drain maxPublish =>
    match ctx.draining with
    | some _ => none
    | none => some (if maxPublish ≤ 0 then ctx else { ctx with draining := some ⟨maxPublish, 0⟩ })
  | .drainStep =>
    match ctx.draining with
    | none => none
    | some call =>
      if ctx.connected = false ∨ ¬call.published < call.maxPublish then some { ctx with draining := none }
      else
        match impl.take ctx.queue with
        | none => some { ctx with draining := none }
        | some (entry, queue) => some
          { ctx with
            queue := queue
            draining := some { call with published := call.published + 1 }
            flushed := ctx.flushed ++ [entry] }

def MqttCtx.map {Queue Other : Type} (view : Queue → Other) (ctx : MqttCtx Queue) : MqttCtx Other :=
  ⟨view ctx.queue, ctx.connected, ctx.draining, ctx.inserted, ctx.flushed⟩

def MqttCtx.initial {Queue : Type} (queue : Queue) : MqttCtx Queue := ⟨queue, false, none, [], []⟩

section
variable {cfg : Kconfig} (mq : MqttConfig) (envelopes : EnvelopeCodec)

/-! ## The ring -/

def MqttQueue.next (index : Nat) : Nat := (index + 1) % mq.publishQueueSize

def MqttQueue.makeRoom (q : MqttQueue) : MqttQueue :=
  if q.queueCount ≥ mq.publishQueueSize then
    { q with queueHead := MqttQueue.next mq q.queueHead, queueCount := q.queueCount - 1 }
  else q

def MqttQueue.write (q : MqttQueue) (entry : MqttPubEntry) : MqttQueue :=
  { q with queue := Function.update q.queue q.queueTail entry }

def MqttQueue.advance (q : MqttQueue) : MqttQueue :=
  { q with queueTail := MqttQueue.next mq q.queueTail, queueCount := q.queueCount + 1 }

def mqttEncodeEnvelope (envelope : ServiceEnvelope) : Except Errno Octets :=
  if (envelopes.encode envelope).length > mq.txBufferSize then .error .enomem else .ok (envelopes.encode envelope)

/-- `mqtt_queue_uplink`. The envelope is encoded in the ring, into the entry at the tail. -/
def MqttQueue.queueUplink (q : MqttQueue) (node : Node cfg) (packet : Packet) (wire torn : Octets) :
    MqttQueue × Option MqttPubEntry :=
  match mqttUplinkEnvelope mq node packet wire with
  | none => (q, none)
  | some envelope =>
    let topic := mqttBuildPublishTopic mq node.table node.nodeId
    match mqttEncodeEnvelope mq envelopes envelope with
    | .error _ => ((q.makeRoom mq).write ⟨topic, torn⟩, none)
    | .ok payload => (((q.makeRoom mq).write ⟨topic, payload⟩).advance mq, some ⟨topic, payload⟩)

/-- `mqtt_queue_publish`. The entry is finished before the queue is locked. -/
def MqttQueue.queuePublish (q : MqttQueue) (topic : CString) (payload : Octets) : MqttQueue × Option MqttPubEntry :=
  if payload.length > mq.txBufferSize then (q, none)
  else
    let entry : MqttPubEntry := ⟨(topic.truncate (MQTT_TOPIC_SIZE - 1)).bytes, payload⟩
    (((q.makeRoom mq).write entry).advance mq, some entry)

def MqttQueue.take (q : MqttQueue) : Option (MqttPubEntry × MqttQueue) :=
  if q.queueCount = 0 then none
  else some (q.queue q.queueHead, { q with queueHead := MqttQueue.next mq q.queueHead, queueCount := q.queueCount - 1 })

def MqttQueue.impl : QueueImpl cfg MqttQueue where
  insert q
    | .uplink node packet wire torn => q.queueUplink mq envelopes node packet wire torn
    | .publish topic payload => q.queuePublish mq topic payload
  take := MqttQueue.take mq

/-- `mqtt_ctx` is static. -/
def MqttQueue.zero : MqttQueue := ⟨fun _ => ⟨[], []⟩, 0, 0, 0⟩

/-! ## The queue it is meant to be -/

def Insertion.entry : Insertion cfg → Option MqttPubEntry
  | .uplink node packet wire _ =>
    (mqttUplinkEnvelope mq node packet wire).bind fun envelope =>
      if (envelopes.encode envelope).length > mq.txBufferSize then none
      else some ⟨mqttBuildPublishTopic mq node.table node.nodeId, envelopes.encode envelope⟩
  | .publish topic payload =>
    if payload.length > mq.txBufferSize then none
    else some ⟨(topic.truncate (MQTT_TOPIC_SIZE - 1)).bytes, payload⟩

/-- A queue that appends an entry as a whole or not at all, and loses its oldest entry to it when full. -/
def fifoImpl : QueueImpl cfg (List MqttPubEntry) where
  insert queue call :=
    match call.entry mq envelopes with
    | none => (queue, none)
    | some entry => (Deque.pushNewest mq.publishQueueSize queue entry, some entry)
  take
    | [] => none
    | entry :: rest => some (entry, rest)

/-- An uplink whose envelope is larger than the payload of an entry does not meet a full ring. -/
def MqttQueue.RoomToFail (q : MqttQueue) : Insertion cfg → Prop
  | .uplink node packet wire _ =>
    ∀ envelope ∈ mqttUplinkEnvelope mq node packet wire,
      (envelopes.encode envelope).length ≤ mq.txBufferSize ∨ q.queueCount < mq.publishQueueSize
  | .publish _ _ => True

instance (q : MqttQueue) : ∀ call : Insertion cfg, Decidable (q.RoomToFail mq envelopes call)
  | .uplink node packet wire _ => inferInstanceAs (Decidable (∀ envelope ∈ mqttUplinkEnvelope mq node packet wire, _))
  | .publish _ _ => isTrue trivial

def MqttCtx.RoomToFail (ctx : MqttCtx MqttQueue) : QueueAction cfg → Prop
  | .insert call => ctx.queue.RoomToFail mq envelopes call
  | _ => True

instance (ctx : MqttCtx MqttQueue) : ∀ action : QueueAction cfg, Decidable (ctx.RoomToFail mq envelopes action)
  | .insert call => inferInstanceAs (Decidable (ctx.queue.RoomToFail mq envelopes call))
  | .drain _ => isTrue trivial
  | .drainStep => isTrue trivial
  | .connected _ => isTrue trivial

theorem MqttQueue.insert_cases (q : MqttQueue) (call : Insertion cfg) :
    ((MqttQueue.impl mq envelopes).insert q call = (q, none) ∧ call.entry mq envelopes = none ∧
      q.RoomToFail mq envelopes call) ∨
    (∃ entry, (MqttQueue.impl mq envelopes).insert q call = (((q.makeRoom mq).write entry).advance mq, some entry) ∧
      call.entry mq envelopes = some entry ∧ q.RoomToFail mq envelopes call) ∨
    ∃ entry, (MqttQueue.impl mq envelopes).insert q call = ((q.makeRoom mq).write entry, none) ∧
      call.entry mq envelopes = none ∧
      (q.RoomToFail mq envelopes call ↔ q.queueCount < mq.publishQueueSize) := by
  cases call with
  | publish topic payload =>
    simp only [MqttQueue.impl, MqttQueue.queuePublish, Insertion.entry, MqttQueue.RoomToFail]
    by_cases large : payload.length > mq.txBufferSize
    · simp only [if_pos large]
      exact Or.inl ⟨trivial, trivial, trivial⟩
    · simp only [if_neg large]
      exact Or.inr (Or.inl ⟨_, rfl, rfl, trivial⟩)
  | uplink node packet wire torn =>
    simp only [MqttQueue.impl, MqttQueue.queueUplink, mqttEncodeEnvelope, Insertion.entry, MqttQueue.RoomToFail]
    cases mqttUplinkEnvelope mq node packet wire with
    | none => exact Or.inl ⟨rfl, rfl, fun envelope member => absurd member (Option.not_mem_none envelope)⟩
    | some envelope =>
      simp only [Option.bind_some, Option.mem_some_iff, forall_eq']
      by_cases large : (envelopes.encode envelope).length > mq.txBufferSize
      · simp only [if_pos large]
        exact Or.inr (Or.inr ⟨_, rfl, trivial, or_iff_right (Nat.not_le.mpr large)⟩)
      · simp only [if_neg large]
        exact Or.inr (Or.inl ⟨_, rfl, rfl, Or.inl (Nat.not_lt.mp large)⟩)

/-! ## The contents of the ring -/

def MqttQueue.contents (q : MqttQueue) : List MqttPubEntry :=
  Deque.contents q.queue mq.publishQueueSize q.queueHead q.queueCount

/-- The step is one of the queue it is meant to be. -/
def MqttCtx.FollowsFifo (ctx : MqttCtx MqttQueue) (action : QueueAction cfg) (next : MqttCtx MqttQueue) : Prop :=
  (ctx.map (MqttQueue.contents mq)).step (fifoImpl mq envelopes) action = some (next.map (MqttQueue.contents mq))

/-- What has left the queue and what is in it stand in the order in which they were queued. -/
def MqttCtx.InOrder (ctx : MqttCtx (List MqttPubEntry)) : Prop := (ctx.flushed ++ ctx.queue).Sublist ctx.inserted

/-- What holds of the ring whenever the lock is free. -/
structure MqttQueue.Kept (q : MqttQueue) : Prop where
  head : q.queueHead < mq.publishQueueSize
  count : q.queueCount ≤ mq.publishQueueSize
  tail : q.queueTail = Deque.place mq.publishQueueSize q.queueHead q.queueCount

variable {mq} {envelopes} {q : MqttQueue}

theorem MqttConfig.publishQueueSize_pos : 0 < mq.publishQueueSize := by
  have range := mq.publishQueueSize_range
  omega

@[simp] theorem MqttQueue.contents_length : (q.contents mq).length = q.queueCount := Deque.length_contents _ _ _

theorem MqttQueue.zero_kept : MqttQueue.zero.Kept mq where
  head := mq.publishQueueSize_pos
  count := Nat.zero_le _
  tail := (Deque.place_zero mq.publishQueueSize_pos).symm

theorem MqttQueue.Kept.behind (kept : q.Kept mq) (waiting : q.queueCount ≠ 0) :
    ({ q with queueHead := MqttQueue.next mq q.queueHead, queueCount := q.queueCount - 1 } : MqttQueue).Kept mq := by
  have fewer : q.queueCount - 1 + 1 = q.queueCount := by omega
  have within := kept.count
  refine ⟨Nat.mod_lt _ mq.publishQueueSize_pos, by simp only; omega, ?_⟩
  change q.queueTail = Deque.place _ (Deque.place _ _ 1) _
  rw [Deque.place_place, Nat.add_comm 1, fewer, kept.tail]

theorem MqttQueue.Kept.contents_cons (kept : q.Kept mq) (waiting : q.queueCount ≠ 0) :
    q.contents mq = q.queue q.queueHead ::
      MqttQueue.contents mq { q with queueHead := MqttQueue.next mq q.queueHead, queueCount := q.queueCount - 1 } := by
  have fewer : q.queueCount - 1 + 1 = q.queueCount := by omega
  calc q.contents mq = Deque.contents q.queue mq.publishQueueSize q.queueHead (q.queueCount - 1 + 1) := by
        rw [fewer, MqttQueue.contents]
    _ = _ := Deque.contents_succ_oldest q.queue kept.head _

theorem MqttQueue.Kept.makeRoom (kept : q.Kept mq) : (q.makeRoom mq).Kept mq := by
  unfold MqttQueue.makeRoom
  split_ifs with full
  · apply kept.behind
    have range := mq.publishQueueSize_range
    omega
  · exact kept

theorem MqttQueue.Kept.makeRoom_count (kept : q.Kept mq) : (q.makeRoom mq).queueCount < mq.publishQueueSize := by
  have range := mq.publishQueueSize_range
  have within := kept.count
  unfold MqttQueue.makeRoom
  split_ifs with full
  · simp only
    omega
  · omega

theorem MqttQueue.Kept.makeRoom_contents (kept : q.Kept mq) :
    (q.makeRoom mq).contents mq = mqttMakeRoom mq (q.contents mq) := by
  unfold MqttQueue.makeRoom mqttMakeRoom
  rw [MqttQueue.contents_length]
  split_ifs with full
  · have waiting : q.queueCount ≠ 0 := by
      have range := mq.publishQueueSize_range
      omega
    rw [kept.contents_cons waiting, List.tail_cons]
  · rfl

/-- The entry at the tail is not in the queue. -/
theorem MqttQueue.Kept.write_contents (kept : q.Kept mq) (room : q.queueCount < mq.publishQueueSize)
    (entry : MqttPubEntry) : (q.write entry).contents mq = q.contents mq := by
  unfold MqttQueue.write MqttQueue.contents
  rw [kept.tail]
  exact Deque.contents_update (Nat.le_refl _) room entry

theorem MqttQueue.Kept.write (kept : q.Kept mq) (entry : MqttPubEntry) : (q.write entry).Kept mq :=
  ⟨kept.head, kept.count, kept.tail⟩

theorem MqttQueue.Kept.append (kept : q.Kept mq) (room : q.queueCount < mq.publishQueueSize) (entry : MqttPubEntry) :
    ((q.write entry).advance mq).Kept mq ∧ ((q.write entry).advance mq).contents mq = q.contents mq ++ [entry] := by
  constructor
  · refine ⟨kept.head, room, ?_⟩
    change MqttQueue.next mq q.queueTail = _
    rw [kept.tail]
    exact Deque.place_place q.queueHead q.queueCount 1
  · unfold MqttQueue.write MqttQueue.advance MqttQueue.contents
    rw [kept.tail]
    exact Deque.contents_push_newest room entry

theorem mqttMakeRoom_append (within : q.queueCount ≤ mq.publishQueueSize) (entry : MqttPubEntry) :
    mqttMakeRoom mq (q.contents mq) ++ [entry] = Deque.pushNewest mq.publishQueueSize (q.contents mq) entry := by
  unfold mqttMakeRoom Deque.pushNewest
  rw [MqttQueue.contents_length]
  congr 1
  apply if_congr _ rfl rfl
  omega

theorem MqttQueue.Kept.put (kept : q.Kept mq) (entry : MqttPubEntry) :
    (((q.makeRoom mq).write entry).advance mq).Kept mq ∧
      (((q.makeRoom mq).write entry).advance mq).contents mq =
        Deque.pushNewest mq.publishQueueSize (q.contents mq) entry := by
  obtain ⟨after, appended⟩ := kept.makeRoom.append kept.makeRoom_count entry
  refine ⟨after, ?_⟩
  rw [appended, kept.makeRoom_contents, mqttMakeRoom_append kept.count]

/-- An entry that is given up half way takes its room with it. -/
theorem MqttQueue.Kept.tear (kept : q.Kept mq) (entry : MqttPubEntry) :
    ((q.makeRoom mq).write entry).Kept mq ∧
      ((q.makeRoom mq).write entry).contents mq = mqttMakeRoom mq (q.contents mq) := by
  refine ⟨kept.makeRoom.write entry, ?_⟩
  rw [kept.makeRoom.write_contents kept.makeRoom_count, kept.makeRoom_contents]

/-! ## Steps -/

theorem MqttQueue.Kept.insert (kept : q.Kept mq) (call : Insertion cfg) :
    ((MqttQueue.impl mq envelopes).insert q call).1.Kept mq := by
  obtain ⟨same, -, -⟩ | ⟨entry, appended, -, -⟩ | ⟨entry, torn, -, -⟩ := q.insert_cases mq envelopes call
  · rw [same]
    exact kept
  · rw [appended]
    exact (kept.put entry).1
  · rw [torn]
    exact (kept.tear entry).1

theorem mqttMakeRoom_eq_self_iff {queue : List MqttPubEntry} (within : queue.length ≤ mq.publishQueueSize) :
    mqttMakeRoom mq queue = queue ↔ queue.length < mq.publishQueueSize := by
  have range := mq.publishQueueSize_range
  unfold mqttMakeRoom
  split_ifs with full
  · constructor
    · intro same
      have shorter := congrArg List.length same
      rw [List.length_tail] at shorter
      omega
    · omega
  · exact iff_of_true rfl (Nat.not_le.mp full)

theorem MqttQueue.insert_answer (q : MqttQueue) (queue : List MqttPubEntry) (call : Insertion cfg) :
    ((MqttQueue.impl mq envelopes).insert q call).2 = ((fifoImpl mq envelopes).insert queue call).2 := by
  simp only [fifoImpl]
  obtain ⟨same, made, -⟩ | ⟨entry, same, made, -⟩ | ⟨entry, same, made, -⟩ :=
    q.insert_cases mq envelopes call <;> rw [same, made]

theorem mqttMakeRoom_sublist (queue : List MqttPubEntry) : (mqttMakeRoom mq queue).Sublist queue := by
  unfold mqttMakeRoom
  split_ifs
  · exact List.tail_sublist queue
  · exact List.Sublist.refl queue

/-- An insertion does to the contents what it is meant to, unless it fails in a full ring. -/
theorem MqttQueue.Kept.insert_iff (kept : q.Kept mq) (call : Insertion cfg) :
    ((fifoImpl mq envelopes).insert (q.contents mq) call).1 =
        ((MqttQueue.impl mq envelopes).insert q call).1.contents mq ↔
      q.RoomToFail mq envelopes call := by
  simp only [fifoImpl]
  obtain ⟨same, made, room⟩ | ⟨entry, appended, made, room⟩ | ⟨entry, torn, made, room⟩ :=
    q.insert_cases mq envelopes call
  · rw [made, same]
    exact iff_of_true rfl room
  · rw [made, appended]
    exact iff_of_true (kept.put entry).2.symm room
  · have within : (q.contents mq).length ≤ mq.publishQueueSize := q.contents_length.trans_le kept.count
    rw [made, torn, room, (kept.tear entry).2, eq_comm, mqttMakeRoom_eq_self_iff within, MqttQueue.contents_length]

theorem MqttQueue.Kept.take (kept : q.Kept mq) :
    (fifoImpl mq envelopes : QueueImpl cfg _).take (q.contents mq) =
      ((MqttQueue.impl mq envelopes : QueueImpl cfg _).take q).map (Prod.map id (MqttQueue.contents mq)) := by
  change _ = (q.take mq).map _
  unfold MqttQueue.take
  split_ifs with empty
  · rw [List.eq_nil_of_length_eq_zero (q.contents_length.trans empty)]
    rfl
  · rw [kept.contents_cons empty]
    rfl

/-- The list of a `Gateway` is this ring. -/
theorem MqttQueue.Kept.uplink_gateway (kept : q.Kept mq) {request : Request cfg} {gateway : Gateway cfg}
    (same : q.contents mq = gateway.queue) (packet : Packet) (wire torn : Octets) :
    (q.queueUplink mq envelopes gateway.node packet wire torn).1.contents mq =
      (mqttQueueUplink mq envelopes request gateway packet wire).queue := by
  unfold MqttQueue.queueUplink mqttQueueUplink mqttEncodeEnvelope
  cases mqttUplinkEnvelope mq gateway.node packet wire with
  | none => exact same
  | some envelope =>
    simp only
    split_ifs with large
    · exact (kept.tear _).2.trans (congrArg (mqttMakeRoom mq) same)
    · rw [← same, mqttMakeRoom_append kept.count]
      exact (kept.put _).2

theorem MqttQueue.Kept.publish_gateway (kept : q.Kept mq) {gateway : Gateway cfg}
    (same : q.contents mq = gateway.queue) (topic : CString) (payload : Octets) :
    (q.queuePublish mq topic payload).1.contents mq = (mqttQueuePublish mq gateway topic payload).queue := by
  unfold MqttQueue.queuePublish mqttQueuePublish
  split_ifs with large
  · exact same
  · rw [← same, mqttMakeRoom_append kept.count]
    exact (kept.put _).2

theorem MqttQueue.Kept.contents_taken (kept : q.Kept mq) {entry : MqttPubEntry} {rest : MqttQueue}
    (taken : q.take mq = some (entry, rest)) : q.contents mq = entry :: rest.contents mq := by
  unfold MqttQueue.take at taken
  split_ifs at taken with empty
  cases taken
  exact kept.contents_cons empty

theorem MqttQueue.Kept.taken (kept : q.Kept mq) {entry : MqttPubEntry} {rest : MqttQueue}
    (taken : q.take mq = some (entry, rest)) : rest.Kept mq := by
  unfold MqttQueue.take at taken
  split_ifs at taken with empty
  cases taken
  exact kept.behind empty

theorem MqttCtx.step_cases {Queue : Type} {impl : QueueImpl cfg Queue} {ctx next : MqttCtx Queue}
    {action : QueueAction cfg} (taken : ctx.step impl action = some next) :
    (∃ call, action = .insert call ∧ next.queue = (impl.insert ctx.queue call).1 ∧
      next.inserted = ctx.inserted ++ (impl.insert ctx.queue call).2.toList ∧ next.flushed = ctx.flushed) ∨
    (next.queue = ctx.queue ∧ next.inserted = ctx.inserted ∧ next.flushed = ctx.flushed) ∨
    ∃ entry, impl.take ctx.queue = some (entry, next.queue) ∧ next.inserted = ctx.inserted ∧
      next.flushed = ctx.flushed ++ [entry] := by
  cases action with
  | insert call =>
    cases taken
    exact Or.inl ⟨call, rfl, rfl, rfl, rfl⟩
  | connected now =>
    cases taken
    exact Or.inr (Or.inl ⟨rfl, rfl, rfl⟩)
  | drain maxPublish =>
    simp only [MqttCtx.step] at taken
    split at taken
    · cases taken
    · split_ifs at taken
      all_goals
        cases taken
        exact Or.inr (Or.inl ⟨rfl, rfl, rfl⟩)
  | drainStep =>
    simp only [MqttCtx.step] at taken
    split at taken
    · cases taken
    · split_ifs at taken with done
      · cases taken
        exact Or.inr (Or.inl ⟨rfl, rfl, rfl⟩)
      · split at taken
        · cases taken
          exact Or.inr (Or.inl ⟨rfl, rfl, rfl⟩)
        · next entry rest popped =>
          cases taken
          exact Or.inr (Or.inr ⟨entry, popped, rfl, rfl⟩)

theorem MqttCtx.step_kept {ctx next : MqttCtx MqttQueue} {action : QueueAction cfg} (kept : ctx.queue.Kept mq)
    (taken : ctx.step (MqttQueue.impl mq envelopes) action = some next) : next.queue.Kept mq := by
  obtain ⟨call, -, queue, -, -⟩ | ⟨queue, -, -⟩ | ⟨entry, popped, -, -⟩ := MqttCtx.step_cases taken
  · rw [queue]
    exact kept.insert call
  · rw [queue]
    exact kept
  · exact kept.taken popped

theorem MqttCtx.step_map {Queue Other : Type} {impl : QueueImpl cfg Queue} {other : QueueImpl cfg Other}
    {view : Queue → Other} {ctx : MqttCtx Queue} {action : QueueAction cfg}
    (takes : other.take (view ctx.queue) = (impl.take ctx.queue).map (Prod.map id view))
    (plain : ∀ call, action ≠ .insert call) :
    (ctx.map view).step other action = (ctx.step impl action).map (MqttCtx.map view) := by
  obtain ⟨queue, connected, draining, inserted, flushed⟩ := ctx
  cases action with
  | insert call => exact absurd rfl (plain call)
  | connected now => rfl
  | drain maxPublish =>
    cases draining with
    | some call => rfl
    | none =>
      simp only [MqttCtx.step, MqttCtx.map]
      split_ifs <;> rfl
  | drainStep =>
    cases draining with
    | none => rfl
    | some call =>
      simp only [MqttCtx.step, MqttCtx.map, takes]
      split_ifs with done
      · rfl
      · cases impl.take queue <;> rfl

theorem MqttCtx.step_iff {ctx next : MqttCtx MqttQueue} {action : QueueAction cfg} (kept : ctx.queue.Kept mq)
    (taken : ctx.step (MqttQueue.impl mq envelopes) action = some next) :
    (ctx.map (MqttQueue.contents mq)).step (fifoImpl mq envelopes) action = some (next.map (MqttQueue.contents mq)) ↔
      ctx.RoomToFail mq envelopes action := by
  by_cases inserts : ∃ call, action = .insert call
  · obtain ⟨call, inserted⟩ := inserts
    subst inserted
    cases taken
    rw [MqttCtx.RoomToFail, ← kept.insert_iff call]
    simp only [MqttCtx.step, MqttCtx.map, ctx.queue.insert_answer (ctx.queue.contents mq) call, Option.some.injEq,
      MqttCtx.mk.injEq, and_true]
  · have plain : ∀ call, action ≠ .insert call := fun call same => inserts ⟨call, same⟩
    rw [MqttCtx.step_map kept.take plain, taken]
    apply iff_of_true rfl
    cases action with
    | insert call => exact absurd rfl (plain call)
    | connected now => trivial
    | drain maxPublish => trivial
    | drainStep => trivial

/-! ## Runs -/

theorem mqttQueue_each_iff {ctx last : MqttCtx MqttQueue} {actions : List (QueueAction cfg)} (kept : ctx.queue.Kept mq)
    (whole : Transition.run (MqttCtx.step (MqttQueue.impl mq envelopes)) ctx actions = some last) :
    Transition.Each (MqttCtx.step (MqttQueue.impl mq envelopes)) (MqttCtx.FollowsFifo mq envelopes) ctx actions ↔
      Transition.Guarded (MqttCtx.step (MqttQueue.impl mq envelopes)) (MqttCtx.RoomToFail mq envelopes) ctx actions :=
  Transition.each_iff_guarded_of_invariant (fun _ _ _ => MqttCtx.step_kept) (fun _ _ _ => MqttCtx.step_iff) kept whole

theorem MqttCtx.step_inOrder {ctx next : MqttCtx MqttQueue} {action : QueueAction cfg} (kept : ctx.queue.Kept mq)
    (ordered : (ctx.map (MqttQueue.contents mq)).InOrder)
    (taken : ctx.step (MqttQueue.impl mq envelopes) action = some next) :
    (next.map (MqttQueue.contents mq)).InOrder := by
  simp only [MqttCtx.InOrder, MqttCtx.map] at ordered ⊢
  obtain ⟨call, -, queue, inserted, flushed⟩ | ⟨queue, inserted, flushed⟩ | ⟨entry, popped, inserted, flushed⟩ :=
    MqttCtx.step_cases taken
  · rw [queue, inserted, flushed]
    obtain ⟨same, -, -⟩ | ⟨entry, same, -, -⟩ | ⟨entry, same, -, -⟩ := ctx.queue.insert_cases mq envelopes call
    · rw [same, Option.toList_none, List.append_nil]
      exact ordered
    · rw [same, (kept.put entry).2, Option.toList_some]
      have pushed : (Deque.pushNewest mq.publishQueueSize (ctx.queue.contents mq) entry).Sublist _ :=
        Deque.pushNewest_sublist _ entry
      apply (pushed.append_left ctx.flushed).trans
      rw [← List.append_assoc]
      exact ordered.append_right [entry]
    · rw [same, (kept.tear entry).2, Option.toList_none, List.append_nil]
      exact ((mqttMakeRoom_sublist _).append_left ctx.flushed).trans ordered
  · rw [queue, inserted, flushed]
    exact ordered
  · rw [inserted, flushed, List.append_assoc, List.singleton_append, ← kept.contents_taken popped]
    exact ordered

/-- However the callers of the hooks, the map report and the MQTT thread follow each other, the queue holds
no more entries than it has room for and hands them on in the order in which they were queued. It is the
queue it is meant to be as long as no encoder fails in a full ring; the oldest entry is lost to one that does. The
queue of a gateway changes as the contents of the ring do. -/
theorem mqtt_queue_fifo_iff (mq : MqttConfig) (envelopes : EnvelopeCodec) (actions : List (QueueAction cfg))
    (last : MqttCtx MqttQueue)
    (whole : Transition.run (MqttCtx.step (MqttQueue.impl mq envelopes)) (MqttCtx.initial MqttQueue.zero) actions =
      some last) :
    (last.queue.contents mq).length ≤ mq.publishQueueSize ∧ (last.map (MqttQueue.contents mq)).InOrder ∧
      (Transition.Each (MqttCtx.step (MqttQueue.impl mq envelopes)) (MqttCtx.FollowsFifo mq envelopes)
          (MqttCtx.initial MqttQueue.zero) actions ↔
        Transition.Guarded (MqttCtx.step (MqttQueue.impl mq envelopes)) (MqttCtx.RoomToFail mq envelopes)
          (MqttCtx.initial MqttQueue.zero) actions) ∧
      (Transition.Guarded (MqttCtx.step (MqttQueue.impl mq envelopes)) (MqttCtx.RoomToFail mq envelopes)
          (MqttCtx.initial MqttQueue.zero) actions →
        Transition.run (MqttCtx.step (fifoImpl mq envelopes)) (MqttCtx.initial []) actions =
          some (last.map (MqttQueue.contents mq))) ∧
      ∀ gateway : Gateway cfg, last.queue.contents mq = gateway.queue →
        (∀ request packet wire torn, (last.queue.queueUplink mq envelopes gateway.node packet wire torn).1.contents mq =
          (mqttQueueUplink mq envelopes request gateway packet wire).queue) ∧
        ∀ topic payload, (last.queue.queuePublish mq topic payload).1.contents mq =
          (mqttQueuePublish mq gateway topic payload).queue := by
  have start : (MqttCtx.initial MqttQueue.zero).queue.Kept mq := MqttQueue.zero_kept
  have each := mqttQueue_each_iff start whole
  have preserved : ∀ (ctx : MqttCtx MqttQueue) (action : QueueAction cfg) next,
      ctx.queue.Kept mq ∧ (ctx.map (MqttQueue.contents mq)).InOrder → True →
      ctx.step (MqttQueue.impl mq envelopes) action = some next →
      next.queue.Kept mq ∧ (next.map (MqttQueue.contents mq)).InOrder := by
    intro ctx action next both _ taken
    exact ⟨MqttCtx.step_kept both.1 taken, MqttCtx.step_inOrder both.1 both.2 taken⟩
  obtain ⟨kept, ordered⟩ :=
    Transition.run_invariant preserved ⟨start, List.Sublist.refl _⟩ (Transition.guarded_true _ _) whole
  refine ⟨(last.queue.contents_length).trans_le kept.count, ordered, each, ?_, ?_⟩
  · intro guarded
    exact Transition.run_of_each (each.mpr guarded) whole
  · intro gateway same
    exact ⟨fun _ packet wire torn => kept.uplink_gateway same packet wire torn,
      fun topic payload => kept.publish_gateway same topic payload⟩

end

/-! ## Values for examples -/

def longFrame : Octets :=
  WireHeader.octets { dest := 0x44, src := 0x33, id := 9, flags := 0x63, channel := 0x08, nextHop := 0, relayNode := 0 } ++
    List.replicate 239 0x5a

def uplinkOf (wire : Octets) : QueueAction smallKconfig :=
  .insert (.uplink (gatewayAt 0x11 gatewayTable).node { from_ := 0x33, to_ := 0x44, id := 9, portnum := 1 } wire [])

def fourUplinks : List (QueueAction smallKconfig) := List.replicate 4 (uplinkOf (heardFrame 0x08))

def drainedFirst : List (QueueAction smallKconfig) :=
  fourUplinks ++ [.connected true, .drain 1, .drainStep, .drainStep, uplinkOf longFrame]

theorem drainedFirst_completes :
    (Transition.run (MqttCtx.step (MqttQueue.impl plainMqtt (envelopeCodec []))) (MqttCtx.initial MqttQueue.zero)
      drainedFirst).isSome = true := by
  decide +kernel

theorem mqtt_queue_fifo_iff_drained :
    ∃ last, Transition.run (MqttCtx.step (MqttQueue.impl plainMqtt (envelopeCodec []))) (MqttCtx.initial MqttQueue.zero)
        drainedFirst = some last ∧
      Transition.run (MqttCtx.step (fifoImpl plainMqtt (envelopeCodec []))) (MqttCtx.initial []) drainedFirst =
          some (last.map (MqttQueue.contents plainMqtt)) := by
  obtain ⟨last, whole⟩ := Option.isSome_iff_exists.mp drainedFirst_completes
  have guarded : Transition.Guarded (MqttCtx.step (MqttQueue.impl plainMqtt (envelopeCodec [])))
      (MqttCtx.RoomToFail plainMqtt (envelopeCodec [])) (MqttCtx.initial MqttQueue.zero) drainedFirst := by
    decide +kernel
  exact ⟨last, whole, (mqtt_queue_fifo_iff plainMqtt (envelopeCodec []) drainedFirst last whole).2.2.2.1 guarded⟩

/-- The fifth uplink of four is too large, and with it the first is gone. -/
theorem mqtt_queue_torn :
    ∃ last, Transition.run (MqttCtx.step (MqttQueue.impl plainMqtt (envelopeCodec []))) (MqttCtx.initial MqttQueue.zero)
        (fourUplinks ++ [uplinkOf longFrame]) = some last ∧
      (last.queue.contents plainMqtt).length = 3 ∧ last.inserted.length = 4 ∧ last.flushed = [] ∧
      ¬Transition.Each (MqttCtx.step (MqttQueue.impl plainMqtt (envelopeCodec [])))
        (MqttCtx.FollowsFifo plainMqtt (envelopeCodec [])) (MqttCtx.initial MqttQueue.zero)
        (fourUplinks ++ [uplinkOf longFrame]) := by
  refine ⟨_, rfl, by decide +kernel, by decide +kernel, by decide +kernel, ?_⟩
  rw [mqttQueue_each_iff MqttQueue.zero_kept rfl]
  decide +kernel

end Meshtastic
