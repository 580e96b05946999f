import Meshtastic.Lib.History
import Meshtastic.Lib.Run
import Meshtastic.Node

/-! The outbound queue of `meshtastic_outbound.c`. Callers put frames in a message queue and one thread
transmits them. A caller that waits lends the thread two variables of its own stack frame, a semaphore
and a result; the thread writes to them after the transmission. -/

namespace Meshtastic
open Bytes

/-- The calls of `outbound_enqueue`, in the order they are made. -/
abbrev CallId := Nat

/-- `struct mt_outbound_item`. `caller` is the call that made it; `lent` says that `done` and `result`
point into the stack frame of that call, otherwise they are NULL. -/
structure OutboundItem where
  wire : Octets
  caller : CallId
  lent : Bool
  deriving DecidableEq

/-- A call waits with its semaphore given or not and the result so far, or has returned. -/
inductive CallStatus where
  | absent
  | waiting (wait : Wait) (given : Bool) (result : Option Errno)
  | returned (code : Option Errno)
  deriving DecidableEq

inductive TransmitPhase where
  | idle
  | got (item : OutboundItem)
  | sent (item : OutboundItem) (result : Option Errno)
  | stored (item : OutboundItem)

inductive OutboundEvent where
  | returned (call : CallId) (code : Option Errno)
  | transmitted (call : CallId)
  deriving DecidableEq

structure Outbound where
  depth : Nat
  queue : List OutboundItem := []
  thread : TransmitPhase := .idle
  calls : CallId → CallStatus := fun _ => .absent
  log : List OutboundEvent := []

inductive OutboundMove where
  | enqueue (call : CallId) (pkt : Octets) (wait : Wait)
  | get
  | transmit (result : Option Errno)
  | store
  | give
  | wake (call : CallId)
  | expire (call : CallId)
  deriving DecidableEq

namespace Outbound

def set (out : Outbound) (call : CallId) (status : CallStatus) : Outbound :=
  { out with calls := Function.update out.calls call status }

def put (out : Outbound) (item : OutboundItem) : Outbound := { out with queue := out.queue ++ [item] }

def finish (out : Outbound) (call : CallId) (code : Option Errno) : Outbound :=
  { out.set call (.returned code) with log := .returned call code :: out.log }

/-- `outbound_enqueue` up to its wait. A put that may wait is not possible while the queue is full. -/
def outboundEnqueue (out : Outbound) (call : CallId) (pkt : Octets) (wait : Wait) : Option Outbound :=
  if pkt.length = 0 ∨ pkt.length > PKT_MAX then some (out.finish call (some .einval))
  else if wait = .noWait then
    if out.queue.length < out.depth then
      some ((out.put ⟨pkt, call, false⟩).finish call none)
    else some (out.finish call (some .enomsg))
  else if out.queue.length < out.depth then
    some ((out.put ⟨pkt, call, true⟩).set call (.waiting wait false none))
  else none

/-- The thread writes the result where it was lent; a call that has returned has no such place any more. -/
def storeResult (out : Outbound) (item : OutboundItem) (result : Option Errno) : Outbound :=
  match item.lent, out.calls item.caller with
  | true, .waiting wait given _ => out.set item.caller (.waiting wait given result)
  | _, _ => out

def giveSem (out : Outbound) (item : OutboundItem) : Outbound :=
  match item.lent, out.calls item.caller with
  | true, .waiting wait _ result => out.set item.caller (.waiting wait true result)
  | _, _ => out

def step (out : Outbound) : OutboundMove → Option Outbound
  | .enqueue call pkt wait =>
    match out.calls call with
    | .absent => out.outboundEnqueue call pkt wait
    | _ => none
  | .get =>
    match out.thread, out.queue with
    | .idle, item :: rest => some { out with queue := rest, thread := .got item }
    | _, _ => none
  | .transmit result =>
    match out.thread with
    | .got item => some { out with thread := .sent item result, log := .transmitted item.caller :: out.log }
    | _ => none
  | .store =>
    match out.thread with
    | .sent item result => some { out.storeResult item result with thread := .stored item }
    | _ => none
  | .give =>
    match out.thread with
    | .stored item => some { out.giveSem item with thread := .idle }
    | _ => none
  | .wake call =>
    match out.calls call with
    | .waiting _ true result => some (out.finish call result)
    | _ => none
  | .expire call =>
    match out.calls call with
    | .waiting .limited false _ => some (out.finish call (some .eagain))
    | _ => none

/-! ## Lent references -/

def onAir (out : Outbound) : List OutboundItem :=
  match out.thread with
  | .idle => []
  | .got item => [item]
  | .sent item _ => [item]
  | .stored item => [item]

def underway (out : Outbound) : List OutboundItem := out.onAir ++ out.queue

/-- Every reference that the thread may still use belongs to a call that has not returned. -/
def RefsValid (out : Outbound) : Prop :=
  ∀ item ∈ out.underway, item.lent = true → ∃ wait given result, out.calls item.caller = .waiting wait given result

/-- A transmission follows no error of its own call. -/
def mayTransmit : OutboundEvent → List OutboundEvent → Prop
  | .transmitted call, older => ∀ err, .returned call (some err) ∉ older
  | .returned _ _, _ => True

/-- What the callers of `outbound_enqueue` rely on. -/
def Sound (out : Outbound) : Prop := out.RefsValid ∧ History.Lawful mayTransmit out.log

def isExpiry : OutboundMove → Bool
  | .expire _ => true
  | _ => false

/-! ## What every run keeps -/

/-- Items and calls belong together: one item for each call, none for a call not made, one for each call
that waits unanswered; and the log tells how a call returned. -/
structure Booked (out : Outbound) : Prop where
  nodup : (out.underway.map OutboundItem.caller).Nodup
  known : ∀ item ∈ out.underway, out.calls item.caller ≠ .absent
  owed : ∀ call wait result, out.calls call = .waiting wait false result →
    ∃ item ∈ out.underway, item.lent = true ∧ item.caller = call
  logged : ∀ call code, .returned call code ∈ out.log → out.calls call = .returned code

/-- While no wait expires: a lent item's call waits unanswered, another item's call has returned 0. -/
def Matched (out : Outbound) : Prop :=
  ∀ item ∈ out.underway,
    if item.lent then ∃ wait result, out.calls item.caller = .waiting wait false result
    else out.calls item.caller = .returned none

@[simp] theorem underway_set (out : Outbound) (call : CallId) (status : CallStatus) :
    (out.set call status).underway = out.underway := rfl

@[simp] theorem underway_finish (out : Outbound) (call : CallId) (code : Option Errno) :
    (out.finish call code).underway = out.underway := rfl

@[simp] theorem underway_put (out : Outbound) (item : OutboundItem) :
    (out.put item).underway = out.underway ++ [item] := by
  simp only [underway, put, List.append_assoc]
  rfl

variable {out next : Outbound}

theorem outboundEnqueue_cases {call : CallId} {pkt : Octets} {wait : Wait}
    (made : out.outboundEnqueue call pkt wait = some next) :
    (∃ err, next = out.finish call (some err)) ∨
      next = (out.put ⟨pkt, call, false⟩).finish call none ∨
      next = (out.put ⟨pkt, call, true⟩).set call (.waiting wait false none) := by
  simp only [outboundEnqueue] at made
  split_ifs at made
  · cases made
    exact .inl ⟨_, rfl⟩
  · cases made
    exact .inr (.inl rfl)
  · cases made
    exact .inl ⟨_, rfl⟩
  · cases made
    exact .inr (.inr rfl)

theorem Booked.finish (booked : out.Booked) {call : CallId} (open_ : ∀ code, out.calls call ≠ .returned code)
    (code : Option Errno) : (out.finish call code).Booked where
  nodup := booked.nodup
  known := by
    intro item member
    change Function.update out.calls call _ item.caller ≠ _
    by_cases same : item.caller = call
    · rw [same, Function.update_self]
      exact fun absent => nomatch absent
    · rw [Function.update_of_ne same]
      exact booked.known item member
  owed := by
    intro other wait result waits
    change Function.update out.calls call _ other = _ at waits
    by_cases same : other = call
    · rw [same, Function.update_self] at waits
      cases waits
    · rw [Function.update_of_ne same] at waits
      exact booked.owed other wait result waits
  logged := by
    intro other otherCode event
    change Function.update out.calls call _ other = _
    rcases List.mem_cons.mp event with first | older
    · cases first
      exact Function.update_self ..
    · have before := booked.logged other otherCode older
      have different : other ≠ call := by
        intro same
        rw [same] at before
        exact open_ otherCode before
      rw [Function.update_of_ne different]
      exact before

theorem Booked.put (booked : out.Booked) {call : CallId} (absent : out.calls call = .absent) (item : OutboundItem)
    (own : item.caller = call) (status : CallStatus) (made : status ≠ .absent)
    (owes : ∀ wait result, status = .waiting wait false result → item.lent = true)
    (log : List OutboundEvent) (told : ∀ other code, .returned other code ∈ log →
      .returned other code ∈ out.log ∨ other = call ∧ status = .returned code) :
    Booked { (out.put item).set call status with log := log } where
  nodup := by
    change ((out.put item).underway.map OutboundItem.caller).Nodup
    rw [underway_put, List.map_append, List.nodup_append]
    refine ⟨booked.nodup, List.nodup_singleton _, ?_⟩
    intro caller old other new same
    obtain ⟨earlier, member, made⟩ := List.mem_map.mp old
    have known := booked.known earlier member
    rw [made, same, List.mem_singleton.mp new, own] at known
    exact known absent
  known := by
    intro earlier member
    change Function.update out.calls call status earlier.caller ≠ _
    by_cases same : earlier.caller = call
    · rw [same, Function.update_self]
      exact made
    · rw [Function.update_of_ne same]
      change earlier ∈ (out.put item).underway at member
      rw [underway_put] at member
      rcases List.mem_append.mp member with old | new
      · exact booked.known earlier old
      · rw [List.mem_singleton.mp new] at same
        exact absurd own same
  owed := by
    intro other wait result waits
    change Function.update out.calls call status other = _ at waits
    change ∃ earlier ∈ (out.put item).underway, _
    rw [underway_put]
    by_cases same : other = call
    · rw [same, Function.update_self] at waits
      exact ⟨item, List.mem_append_right _ (List.mem_singleton_self _), owes wait result waits, own.trans same.symm⟩
    · rw [Function.update_of_ne same] at waits
      obtain ⟨earlier, member, lent⟩ := booked.owed other wait result waits
      exact ⟨earlier, List.mem_append_left _ member, lent⟩
  logged := by
    intro other code event
    change Function.update out.calls call status other = _
    rcases told other code event with older | ⟨same, status_eq⟩
    · have before := booked.logged other code older
      have different : other ≠ call := by
        intro same
        rw [same, absent] at before
        cases before
      rw [Function.update_of_ne different]
      exact before
    · rw [same, Function.update_self]
      exact status_eq

theorem Booked.enqueue (booked : out.Booked) {call : CallId} {pkt : Octets} {wait : Wait}
    (absent : out.calls call = .absent) (made : out.outboundEnqueue call pkt wait = some next) : next.Booked := by
  have open_ : ∀ code, out.calls call ≠ .returned code := by
    intro code same
    rw [absent] at same
    cases same
  rcases outboundEnqueue_cases made with ⟨err, same⟩ | same | same
  · rw [same]
    exact booked.finish open_ (some err)
  · rw [same]
    apply booked.put absent ⟨pkt, call, false⟩ rfl (.returned none) (fun absent => nomatch absent)
      (fun _ _ waits => nomatch waits)
    intro other code event
    rcases List.mem_cons.mp event with first | older
    · cases first
      exact .inr ⟨rfl, rfl⟩
    · exact .inl older
  · rw [same]
    exact booked.put absent ⟨pkt, call, true⟩ rfl (.waiting wait false none) (fun absent => nomatch absent)
      (fun _ _ _ => rfl) out.log (fun other code event => .inl event)

theorem storeResult_calls (out : Outbound) (item : OutboundItem) (result : Option Errno) (call : CallId) :
    (out.storeResult item result).calls call = out.calls call ∨
      ∃ wait given before, out.calls call = .waiting wait given before ∧ item.lent = true ∧ item.caller = call ∧
        (out.storeResult item result).calls call = .waiting wait given result := by
  simp only [storeResult]
  split
  · rename_i wait given before lent waits
    by_cases same : call = item.caller
    · right
      refine ⟨wait, given, before, by rw [same]; exact waits, lent, same.symm, ?_⟩
      rw [same]
      exact Function.update_self ..
    · left
      exact Function.update_of_ne same ..
  · exact .inl rfl

theorem giveSem_calls (out : Outbound) (item : OutboundItem) (call : CallId) :
    ((out.giveSem item).calls call = out.calls call ∧
        (item.lent = true → item.caller = call → ∀ wait given result, out.calls call ≠ .waiting wait given result)) ∨
      ∃ wait given result, out.calls call = .waiting wait given result ∧ item.lent = true ∧ item.caller = call ∧
        (out.giveSem item).calls call = .waiting wait true result := by
  simp only [giveSem]
  split
  · rename_i wait given result lent waits
    by_cases same : call = item.caller
    · right
      refine ⟨wait, given, result, by rw [same]; exact waits, lent, same.symm, ?_⟩
      rw [same]
      exact Function.update_self ..
    · left
      exact ⟨Function.update_of_ne same .., fun _ own => absurd own.symm same⟩
  · rename_i other
    refine .inl ⟨rfl, ?_⟩
    intro lent own wait given result waits
    rw [← own] at waits
    exact other wait given result lent waits

theorem storeResult_frame (out : Outbound) (item : OutboundItem) (result : Option Errno) :
    (out.storeResult item result).queue = out.queue ∧ (out.storeResult item result).log = out.log := by
  simp only [storeResult]
  split <;> exact ⟨rfl, rfl⟩

theorem giveSem_frame (out : Outbound) (item : OutboundItem) :
    (out.giveSem item).queue = out.queue ∧ (out.giveSem item).log = out.log := by
  simp only [giveSem]
  split <;> exact ⟨rfl, rfl⟩

theorem underway_get {item : OutboundItem} {rest : List OutboundItem} (idle : out.thread = .idle)
    (queued : out.queue = item :: rest) :
    Outbound.underway { out with queue := rest, thread := .got item } = out.underway := by
  simp only [underway, onAir, idle, queued, List.singleton_append, List.nil_append]

theorem underway_transmit {item : OutboundItem} {result : Option Errno} {log : List OutboundEvent}
    (got : out.thread = .got item) :
    Outbound.underway { out with thread := .sent item result, log := log } = out.underway := by
  simp only [underway, onAir, got]

theorem underway_store {item : OutboundItem} {result : Option Errno} (sent : out.thread = .sent item result) :
    Outbound.underway { out.storeResult item result with thread := .stored item } = out.underway := by
  simp only [underway, onAir, sent, (out.storeResult_frame item result).1]

theorem underway_give {item : OutboundItem} (stored : out.thread = .stored item) :
    out.underway = item :: Outbound.underway { out.giveSem item with thread := .idle } := by
  have queue : Outbound.underway { out.giveSem item with thread := .idle } = out.queue := (out.giveSem_frame item).1
  rw [queue]
  simp only [underway, onAir, stored, List.singleton_append]

theorem Booked.moveAlong (booked : out.Booked) (sameUnderway : next.underway = out.underway)
    (sameCalls : next.calls = out.calls)
    (told : ∀ call code, .returned call code ∈ next.log → .returned call code ∈ out.log) : next.Booked := by
  refine ⟨?_, ?_, ?_, ?_⟩
  · rw [sameUnderway]
    exact booked.nodup
  · rw [sameUnderway, sameCalls]
    exact booked.known
  · rw [sameUnderway, sameCalls]
    exact booked.owed
  · intro call code event
    rw [sameCalls]
    exact booked.logged call code (told call code event)

theorem Booked.store (booked : out.Booked) {item : OutboundItem} {result : Option Errno}
    (phase : out.thread = .sent item result) :
    Booked { out.storeResult item result with thread := .stored item } := by
  have sameUnderway := underway_store phase
  refine ⟨?_, ?_, ?_, ?_⟩
  · rw [sameUnderway]
    exact booked.nodup
  · rw [sameUnderway]
    intro other member
    rcases out.storeResult_calls item result other.caller with same | ⟨wait, given, before, -, -, -, now⟩
    · exact same ▸ booked.known other member
    · exact fun absent => nomatch now.symm.trans absent
  · rw [sameUnderway]
    intro call wait other waits
    rcases out.storeResult_calls item result call with same | ⟨wait', given, before, was, -, -, now⟩
    · exact booked.owed call wait other (same.symm.trans waits)
    · have ungiven := now.symm.trans waits
      cases ungiven
      exact booked.owed call wait before was
  · intro call code event
    have logged := booked.logged call code ((out.storeResult_frame item result).2 ▸ event)
    rcases out.storeResult_calls item result call with same | ⟨wait, given, before, was, -⟩
    · exact same.trans logged
    · exact nomatch was.symm.trans logged

theorem Booked.give (booked : out.Booked) {item : OutboundItem} (phase : out.thread = .stored item) :
    Booked { out.giveSem item with thread := .idle } := by
  have before := underway_give phase
  have nodup := booked.nodup
  rw [before, List.map_cons, List.nodup_cons] at nodup
  refine ⟨nodup.2, ?_, ?_, ?_⟩
  · intro other member
    have known := booked.known other (before ▸ List.mem_cons_of_mem _ member)
    rcases out.giveSem_calls item other.caller with ⟨same, -⟩ | ⟨wait, given, result, -, -, -, now⟩
    · exact same ▸ known
    · exact fun absent => nomatch now.symm.trans absent
  · intro call wait result waits
    rcases out.giveSem_calls item call with ⟨same, elsewhere⟩ | ⟨wait', given, result', -, -, -, now⟩
    · have was := same.symm.trans waits
      obtain ⟨other, member, lent, own⟩ := booked.owed call wait result was
      rw [before] at member
      rcases List.mem_cons.mp member with first | queued
      · rw [first] at lent own
        exact absurd was (elsewhere lent own wait false result)
      · exact ⟨other, queued, lent, own⟩
    · exact nomatch now.symm.trans waits
  · intro call code event
    have logged := booked.logged call code ((out.giveSem_frame item).2 ▸ event)
    rcases out.giveSem_calls item call with ⟨same, -⟩ | ⟨wait, given, result, was, -⟩
    · exact same.trans logged
    · exact nomatch was.symm.trans logged

/-- All that a step can do. -/
theorem step_cases {move : OutboundMove} (moved : out.step move = some next) :
    (∃ call pkt wait, move = .enqueue call pkt wait ∧ out.calls call = .absent ∧
        out.outboundEnqueue call pkt wait = some next) ∨
      (∃ item rest, move = .get ∧ out.thread = .idle ∧ out.queue = item :: rest ∧
        next = { out with queue := rest, thread := .got item }) ∨
      (∃ item result, move = .transmit result ∧ out.thread = .got item ∧
        next = { out with thread := .sent item result, log := .transmitted item.caller :: out.log }) ∨
      (∃ item result, move = .store ∧ out.thread = .sent item result ∧
        next = { out.storeResult item result with thread := .stored item }) ∨
      (∃ item, move = .give ∧ out.thread = .stored item ∧ next = { out.giveSem item with thread := .idle }) ∨
      (∃ call wait result, move = .wake call ∧ out.calls call = .waiting wait true result ∧
        next = out.finish call result) ∨
      (∃ call result, move = .expire call ∧ out.calls call = .waiting .limited false result ∧
        next = out.finish call (some .eagain)) := by
  cases move with
  | enqueue call pkt wait =>
    simp only [step] at moved
    split at moved
    · exact .inl ⟨call, pkt, wait, rfl, by assumption, moved⟩
    · cases moved
  | get =>
    simp only [step] at moved
    split at moved
    · cases moved
      exact .inr (.inl ⟨_, _, rfl, by assumption, by assumption, rfl⟩)
    · cases moved
  | transmit result =>
    simp only [step] at moved
    split at moved
    · cases moved
      exact .inr (.inr (.inl ⟨_, result, rfl, by assumption, rfl⟩))
    · cases moved
  | store =>
    simp only [step] at moved
    split at moved
    · cases moved
      exact .inr (.inr (.inr (.inl ⟨_, _, rfl, by assumption, rfl⟩)))
    · cases moved
  | give =>
    simp only [step] at moved
    split at moved
    · cases moved
      exact .inr (.inr (.inr (.inr (.inl ⟨_, rfl, by assumption, rfl⟩))))
    · cases moved
  | wake call =>
    simp only [step] at moved
    split at moved
    · cases moved
      exact .inr (.inr (.inr (.inr (.inr (.inl ⟨call, _, _, rfl, by assumption, rfl⟩)))))
    · cases moved
  | expire call =>
    simp only [step] at moved
    split at moved
    · cases moved
      exact .inr (.inr (.inr (.inr (.inr (.inr ⟨call, _, rfl, by assumption, rfl⟩)))))
    · cases moved

theorem Booked.step (out : Outbound) (move : OutboundMove) (next : Outbound) (booked : out.Booked)
    (moved : out.step move = some next) : next.Booked := by
  rcases step_cases moved with ⟨call, pkt, wait, -, absent, made⟩ | ⟨item, rest, -, idle, queued, same⟩ |
    ⟨item, result, -, got, same⟩ | ⟨item, result, -, sent, same⟩ | ⟨item, -, stored, same⟩ |
    ⟨call, wait, result, -, waits, same⟩ | ⟨call, result, -, waits, same⟩
  · exact booked.enqueue absent made
  · rw [same]
    exact booked.moveAlong (underway_get idle queued) rfl (fun _ _ event => event)
  · rw [same]
    apply booked.moveAlong (underway_transmit got) rfl
    intro call code event
    rcases List.mem_cons.mp event with first | older
    · cases first
    · exact older
  · rw [same]
    exact booked.store sent
  · rw [same]
    exact booked.give stored
  · rw [same]
    apply booked.finish
    intro code returned
    rw [waits] at returned
    cases returned
  · rw [same]
    apply booked.finish
    intro code returned
    rw [waits] at returned
    cases returned

/-! ## Runs in which no wait expires -/

theorem Matched.finish (matched : out.Matched) {call : CallId} (elsewhere : ∀ item ∈ out.underway, item.caller ≠ call)
    (code : Option Errno) : (out.finish call code).Matched := by
  intro item member
  change if item.lent then ∃ wait result, Function.update out.calls call _ item.caller = _
    else Function.update out.calls call _ item.caller = _
  rw [Function.update_of_ne (elsewhere item member)]
  exact matched item member

theorem Matched.put (matched : out.Matched) {call : CallId} (elsewhere : ∀ item ∈ out.underway, item.caller ≠ call)
    (pkt : Octets) (lent : Bool) (status : CallStatus) (log : List OutboundEvent)
    (fits : if lent then ∃ wait result, status = .waiting wait false result else status = .returned none) :
    Matched { (out.put ⟨pkt, call, lent⟩).set call status with log := log } := by
  intro item member
  change item ∈ (out.put ⟨pkt, call, lent⟩).underway at member
  change if item.lent then ∃ wait result, Function.update out.calls call status item.caller = _
    else Function.update out.calls call status item.caller = _
  rw [underway_put] at member
  rcases List.mem_append.mp member with old | new
  · rw [Function.update_of_ne (elsewhere item old)]
    exact matched item old
  · rw [List.mem_singleton.mp new, Function.update_self]
    exact fits

theorem Matched.enqueue (booked : out.Booked) (matched : out.Matched) {call : CallId} {pkt : Octets} {wait : Wait}
    (absent : out.calls call = .absent) (made : out.outboundEnqueue call pkt wait = some next) : next.Matched := by
  have elsewhere : ∀ item ∈ out.underway, item.caller ≠ call := by
    intro item member own
    apply booked.known item member
    rw [own]
    exact absent
  rcases outboundEnqueue_cases made with ⟨err, same⟩ | same | same
  · rw [same]
    exact matched.finish elsewhere (some err)
  · rw [same]
    exact matched.put elsewhere pkt false (.returned none) _ rfl
  · rw [same]
    exact matched.put elsewhere pkt true (.waiting wait false none) out.log ⟨wait, none, rfl⟩

theorem Matched.unanswered (matched : out.Matched) {item : OutboundItem} (member : item ∈ out.underway)
    {wait : Wait} {given : Bool} {result : Option Errno} (waits : out.calls item.caller = .waiting wait given result) :
    item.lent = true ∧ given = false := by
  have before := matched item member
  rw [waits] at before
  split at before
  · rename_i lent
    obtain ⟨wait', result', same⟩ := before
    cases same
    exact ⟨lent, rfl⟩
  · cases before

theorem Matched.store (matched : out.Matched) {item : OutboundItem} {result : Option Errno}
    (sent : out.thread = .sent item result) :
    Matched { out.storeResult item result with thread := .stored item } := by
  intro other member
  rw [underway_store sent] at member
  rcases out.storeResult_calls item result other.caller with kept | ⟨wait, given, old, was, -, -, now⟩
  · simp only [kept]
    exact matched other member
  · obtain ⟨lent, ungiven⟩ := matched.unanswered member was
    rw [if_pos lent]
    exact ⟨wait, result, by rw [← ungiven]; exact now⟩

theorem Matched.give (booked : out.Booked) (matched : out.Matched) {item : OutboundItem}
    (stored : out.thread = .stored item) : Matched { out.giveSem item with thread := .idle } := by
  intro other member
  have nodup := booked.nodup
  rw [underway_give stored, List.map_cons, List.nodup_cons] at nodup
  have different : item.caller ≠ other.caller := by
    intro equal
    apply nodup.1
    rw [equal]
    exact List.mem_map_of_mem member
  have before := matched other (underway_give stored ▸ List.mem_cons_of_mem _ member)
  rcases out.giveSem_calls item other.caller with ⟨kept, -⟩ | ⟨-, -, -, -, -, own, -⟩
  · simp only [kept]
    exact before
  · exact absurd own different

theorem Matched.step (booked : out.Booked) (matched : out.Matched) {move : OutboundMove}
    (inTime : isExpiry move = false) (moved : out.step move = some next) : next.Matched := by
  rcases step_cases moved with ⟨call, pkt, wait, -, absent, made⟩ | ⟨item, rest, -, idle, queued, same⟩ |
    ⟨item, result, -, got, same⟩ | ⟨item, result, -, sent, same⟩ | ⟨item, -, stored, same⟩ |
    ⟨call, wait, result, -, waits, same⟩ | ⟨call, result, expires, -⟩
  · exact matched.enqueue booked absent made
  · rw [same]
    intro other member
    rw [underway_get idle queued] at member
    exact matched other member
  · rw [same]
    intro other member
    rw [underway_transmit got] at member
    exact matched other member
  · rw [same]
    exact matched.store sent
  · rw [same]
    exact matched.give booked stored
  · rw [same]
    apply matched.finish
    intro item member own
    rw [← own] at waits
    exact nomatch (matched.unanswered member waits).2
  · rw [expires] at inTime
    cases inTime

theorem Matched.no_error (booked : out.Booked) (matched : out.Matched) {item : OutboundItem}
    (member : item ∈ out.underway) (err : Errno) : .returned item.caller (some err) ∉ out.log := by
  intro event
  have returned := booked.logged item.caller (some err) event
  have before := matched item member
  rw [returned] at before
  split at before
  · obtain ⟨wait, result, equal⟩ := before
    cases equal
  · cases before

theorem Matched.lawful (booked : out.Booked) (matched : out.Matched)
    (lawful : History.Lawful mayTransmit out.log) {move : OutboundMove} (moved : out.step move = some next) :
    History.Lawful mayTransmit next.log := by
  rcases step_cases moved with ⟨call, pkt, wait, -, -, made⟩ | ⟨item, rest, -, -, -, same⟩ |
    ⟨item, result, -, got, same⟩ | ⟨item, result, -, -, same⟩ | ⟨item, -, -, same⟩ |
    ⟨call, wait, result, -, -, same⟩ | ⟨call, result, -, -, same⟩
  · rcases outboundEnqueue_cases made with ⟨err, same⟩ | same | same
    · rw [same]
      exact ⟨trivial, lawful⟩
    · rw [same]
      exact ⟨trivial, lawful⟩
    · rw [same]
      exact lawful
  · rw [same]
    exact lawful
  · rw [same]
    refine ⟨?_, lawful⟩
    apply matched.no_error booked
    simp [underway, onAir, got]
  · rw [same]
    exact (out.storeResult_frame item result).2 ▸ lawful
  · rw [same]
    exact (out.giveSem_frame item).2 ▸ lawful
  · rw [same]
    exact ⟨trivial, lawful⟩
  · rw [same]
    exact ⟨trivial, lawful⟩

/-- What holds in every state of a run in which no wait expires. -/
structure InTime (out : Outbound) : Prop where
  booked : out.Booked
  matched : out.Matched
  lawful : History.Lawful mayTransmit out.log

theorem InTime.step (out : Outbound) (move : OutboundMove) (next : Outbound) (inTime : out.InTime)
    (punctual : isExpiry move = false) (moved : out.step move = some next) : next.InTime :=
  ⟨.step out move next inTime.booked moved, inTime.matched.step inTime.booked punctual moved,
    inTime.matched.lawful inTime.booked inTime.lawful moved⟩

theorem InTime.sound (out : Outbound) (inTime : out.InTime) : out.Sound := by
  refine ⟨?_, inTime.lawful⟩
  intro item member lent
  have before := inTime.matched item member
  rw [if_pos lent] at before
  obtain ⟨wait, result, waits⟩ := before
  exact ⟨wait, false, result, waits⟩

theorem start_booked (depth : Nat) : Booked { depth := depth } :=
  ⟨List.nodup_nil, (fun _ member => nomatch member), (fun _ _ _ waits => nomatch waits),
    (fun _ _ event => nomatch event)⟩

theorem start_inTime (depth : Nat) : InTime { depth := depth } :=
  ⟨start_booked depth, (fun _ member => nomatch member), trivial⟩

/-- A wait that expires leaves its references behind, in the queue or with the thread. -/
theorem Booked.expire (booked : out.Booked) {call : CallId} (moved : out.step (.expire call) = some next) :
    ¬ next.RefsValid := by
  rcases step_cases moved with ⟨_, _, _, other, -⟩ | ⟨_, _, other, -⟩ | ⟨_, _, other, -⟩ | ⟨_, _, other, -⟩ |
    ⟨_, other, -⟩ | ⟨_, _, _, other, -⟩ | ⟨caller, result, this, waits, same⟩
  · cases other
  · cases other
  · cases other
  · cases other
  · cases other
  · cases other
  · cases this
    obtain ⟨item, member, lent, own⟩ := booked.owed call _ result waits
    intro valid
    rw [same] at valid
    obtain ⟨wait, given, later, still⟩ := valid item member lent
    change Function.update out.calls call _ item.caller = _ at still
    rw [own, Function.update_self] at still
    cases still

end Outbound

/-- The references lent to the transmit thread are valid in every state, and no call that failed is
transmitted later, exactly in the runs in which no finite wait expires before its semaphore is given. -/
theorem outbound_references_valid_iff (depth : Nat) {moves : List OutboundMove} {last : Outbound}
    (whole : Transition.run Outbound.step { depth := depth } moves = some last) :
    Transition.Always Outbound.step Outbound.Sound { depth := depth } moves ↔
      ∀ move ∈ moves, Outbound.isExpiry move = false := by
  constructor
  · intro always move member
    cases move with
    | expire call =>
      obtain ⟨before, after, split⟩ := List.append_of_mem member
      rw [split] at always whole
      obtain ⟨middle, reached, rest⟩ := Transition.run_append_eq_some.mp whole
      obtain ⟨next, moved, -⟩ := Transition.run_cons_eq_some.mp rest
      have booked : middle.Booked := Transition.run_invariant
        (fun out move next booked _ moved => Outbound.Booked.step out move next booked moved)
        (Outbound.start_booked depth) (Transition.guarded_true _ before) reached
      have sound := ((always.middle reached).2 next moved).first
      exact absurd sound.1 (booked.expire moved)
    | enqueue | get | transmit | store | give | wake => rfl
  · intro punctual
    apply Transition.always_of_invariant Outbound.InTime.step Outbound.InTime.sound (Outbound.start_inTime depth)
    exact Transition.guarded_of_forall (fun _ => punctual) _

def patientCalls : List OutboundMove :=
  [.enqueue 0 [1] .forever, .enqueue 1 [2] .noWait, .get, .transmit none, .store, .give, .wake 0, .get,
    .transmit (some .eio), .store, .give]

def expiredCall : List OutboundMove := [.enqueue 0 [1] .limited, .expire 0, .get, .transmit none]

theorem patientCalls_complete : (Transition.run Outbound.step { depth := 2 } patientCalls).isSome := by decide

theorem outbound_references_valid_patient :
    ∃ last, Transition.run Outbound.step { depth := 2 } patientCalls = some last ∧
      Transition.Always Outbound.step Outbound.Sound { depth := 2 } patientCalls := by
  have whole := (Option.some_get patientCalls_complete).symm
  exact ⟨_, whole, (outbound_references_valid_iff 2 whole).mpr (by decide)⟩

theorem expiredCall_complete : (Transition.run Outbound.step { depth := 2 } expiredCall).isSome := by decide

/-- The call has returned -EAGAIN, its frame is transmitted, and the thread still holds its references. -/
theorem outbound_reference_dangles :
    ∃ last, Transition.run Outbound.step { depth := 2 } expiredCall = some last ∧
      last.calls 0 = .returned (some .eagain) ∧ ¬ last.RefsValid ∧
      last.log = [.transmitted 0, .returned 0 (some .eagain)] := by
  refine ⟨_, (Option.some_get expiredCall_complete).symm, rfl, ?_, rfl⟩
  intro valid
  obtain ⟨wait, given, result, waits⟩ := valid ⟨[1], 0, true⟩ (List.mem_cons_self ..) rfl
  cases waits

end Meshtastic
