import Meshtastic.Lib.Counter
import Meshtastic.NodeChange

/-! The counters that number packets and messages to the phone. Neither gives 0, so that a round of a counter
is one short of the numbers of 32 bits. -/

namespace Meshtastic

def FROMRADIO_NONE : UInt32 := 0

def takeId (none : UInt32) (counter : UInt32) : UInt32 × UInt32 :=
  let id := counter
  let counter := counter + 1
  if id = none then (counter, counter + 1) else (id, counter)

/-- `meshtastic_next_fromradio_id`, on its counter. -/
def nextFromradioId (counter : UInt32) : UInt32 × UInt32 := takeId FROMRADIO_NONE counter

def nextFromradioIds (calls : Nat) (counter : UInt32) : List UInt32 := Counter.draws nextFromradioId calls counter

def Node.allocatePacketIds {cfg : Kconfig} (calls : Nat) (node : Node cfg) : List UInt32 :=
  Counter.draws Node.allocatePacketId calls node

/-! ## One round of a counter -/

def idPosition (counter : UInt32) : Nat := counter.toNat - 1

theorem takeId_gives (counter : UInt32) : (takeId 0 counter).1.toNat = idPosition counter + 1 := by
  unfold takeId idPosition
  by_cases zero : counter = 0
  · rw [zero]
    rfl
  · have positive : counter.toNat ≠ 0 := fun none => zero (UInt32.toNat_inj.mp none)
    simp only [if_neg zero]
    omega

theorem takeId_moves (counter : UInt32) :
    idPosition (takeId 0 counter).2 ≡ idPosition counter + 1 [MOD 2 ^ 32 - 1] := by
  unfold takeId idPosition
  by_cases zero : counter = 0
  · rw [zero]
    rfl
  · have positive : counter.toNat ≠ 0 := fun none => zero (UInt32.toNat_inj.mp none)
    have small := counter.toNat_lt
    have next : (counter + 1).toNat = (counter.toNat + 1) % 2 ^ 32 := UInt32.toNat_add counter 1
    simp only [if_neg zero, next]
    by_cases wraps : counter.toNat + 1 = 2 ^ 32
    · -- the counter is about to stand at 0, and the round begins again
      rw [wraps, show counter.toNat - 1 + 1 = 2 ^ 32 - 1 by omega]
      exact Nat.ModEq.symm (Nat.mod_self _)
    · rw [Nat.mod_eq_of_lt (by omega), show counter.toNat + 1 - 1 = counter.toNat - 1 + 1 by omega]

theorem takeId_nonzero (counter : UInt32) : (takeId 0 counter).1 ≠ 0 := by
  intro none
  have gives := takeId_gives counter
  rw [none] at gives
  exact absurd gives (Nat.succ_ne_zero _).symm

theorem takeId_tells {first second : UInt32} (same : (takeId 0 first).1 = (takeId 0 second).1) :
    idPosition first = idPosition second := by
  have firstGives := takeId_gives first
  rw [same, takeId_gives second] at firstGives
  exact (Nat.succ.inj firstGives).symm

theorem Node.allocatePacketId_takeId {cfg : Kconfig} (node : Node cfg) :
    (node.allocatePacketId.1, node.allocatePacketId.2.nextPktId) = takeId 0 node.nextPktId := by
  unfold allocatePacketId takeId
  by_cases zero : node.nextPktId = 0
  · simp only [if_pos zero]
  · simp only [if_neg zero]

/-- From any value of either counter, up to `2 ^ 32 - 1` calls in a row give ids that are not 0 and all distinct. -/
theorem ids_distinct (calls : Nat) (few : calls ≤ 2 ^ 32 - 1) :
    (∀ (cfg : Kconfig) (node : Node cfg),
      (∀ id ∈ node.allocatePacketIds calls, id ≠ 0) ∧ (node.allocatePacketIds calls).Nodup) ∧
    ∀ counter : UInt32,
      (∀ id ∈ nextFromradioIds calls counter, id ≠ 0) ∧ (nextFromradioIds calls counter).Nodup := by
  constructor
  · intro cfg node
    have id : ∀ node : Node cfg, node.allocatePacketId.1 = (takeId 0 node.nextPktId).1 :=
      fun node => congrArg Prod.fst node.allocatePacketId_takeId
    have counter : ∀ node : Node cfg, node.allocatePacketId.2.nextPktId = (takeId 0 node.nextPktId).2 :=
      fun node => congrArg Prod.snd node.allocatePacketId_takeId
    refine ⟨Counter.forall_mem_draws Node.allocatePacketId_id calls node, ?_⟩
    apply Counter.draws_nodup (fun node => idPosition node.nextPktId) ?_ ?_ few
    · intro node
      rw [counter]
      exact takeId_moves node.nextPktId
    · intro first second same
      rw [id, id] at same
      rw [takeId_tells same]
  · intro counter
    refine ⟨Counter.forall_mem_draws takeId_nonzero calls counter, ?_⟩
    apply Counter.draws_nodup idPosition takeId_moves ?_ few
    intro first second same
    rw [takeId_tells same]

theorem ids_distinct_wrap :
    nextFromradioIds 3 0xfffffffe = [0xfffffffe, 0xffffffff, 1] ∧ (nextFromradioIds 3 0xfffffffe).Nodup :=
  ⟨by decide, ((ids_distinct 3 (by decide)).2 0xfffffffe).2⟩

end Meshtastic
