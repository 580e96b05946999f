import Mathlib.Data.List.Induction
import Mathlib.Order.Lattice

/-! Scans of a list: the first item whose key is least and below a bound, the least key itself, and the reading
of the last item that has one. -/

namespace Scan

variable {Item State Reading : Type}

section
variable {Key : Type} [LinearOrder Key] (key : Item → Key)

def keepLess (kept : Key × Option Item) (item : Item) : Key × Option Item :=
  if key item < kept.1 then (key item, some item) else kept

def firstLeast (bound : Key) (items : List Item) : Option Item := (items.foldl (keepLess key) (bound, none)).2

theorem foldl_keepLess (start : Key × Option Item) (items : List Item) :
    (items.foldl (keepLess key) start).1 ≤ start.1 ∧
    (∀ item ∈ items, (items.foldl (keepLess key) start).1 ≤ key item) ∧
    (items.foldl (keepLess key) start = start ∨
      ∃ item ∈ items, items.foldl (keepLess key) start = (key item, some item) ∧ key item < start.1) := by
  induction items generalizing start with
  | nil => exact ⟨le_refl _, fun _ none => (List.not_mem_nil none).elim, Or.inl rfl⟩
  | cons item rest ih =>
    obtain ⟨below, least, kept⟩ := ih (keepLess key start item)
    rw [List.foldl_cons]
    by_cases less : key item < start.1
    · have here : keepLess key start item = (key item, some item) := if_pos less
      rw [here] at below least kept ⊢
      refine ⟨le_trans below (le_of_lt less), List.forall_mem_cons.mpr ⟨below, least⟩, ?_⟩
      cases kept with
      | inl same => exact Or.inr ⟨item, List.mem_cons_self, same, less⟩
      | inr found =>
        obtain ⟨other, member, same, smaller⟩ := found
        exact Or.inr ⟨other, List.mem_cons_of_mem item member, same, lt_trans smaller less⟩
    · have here : keepLess key start item = start := if_neg less
      rw [here] at below least kept ⊢
      refine ⟨below, List.forall_mem_cons.mpr ⟨le_trans below (not_lt.mp less), least⟩, ?_⟩
      cases kept with
      | inl same => exact Or.inl same
      | inr found =>
        obtain ⟨other, member, same, smaller⟩ := found
        exact Or.inr ⟨other, List.mem_cons_of_mem item member, same, smaller⟩

def leastKey (test : Item → Prop) [DecidablePred test] (bound : Key) (items : List Item) : Key :=
  items.foldl (fun least item => if test item then min least (key item) else least) bound

theorem leastKey_le (test : Item → Prop) [DecidablePred test] (bound : Key) (items : List Item) :
    leastKey key test bound items ≤ bound ∧
    ∀ item ∈ items, test item → leastKey key test bound items ≤ key item := by
  induction items generalizing bound with
  | nil => exact ⟨le_refl _, fun _ none => (List.not_mem_nil none).elim⟩
  | cons item rest ih =>
    obtain ⟨below, least⟩ := ih (if test item then min bound (key item) else bound)
    have unfolded : leastKey key test bound (item :: rest) =
        leastKey key test (if test item then min bound (key item) else bound) rest := rfl
    rw [unfolded]
    constructor
    · apply le_trans below
      split_ifs
      · exact min_le_left _ _
      · exact le_refl _
    · refine List.forall_mem_cons.mpr ⟨?_, least⟩
      intro passes
      apply le_trans below
      rw [if_pos passes]
      exact min_le_right _ _

variable {key} {bound : Key} {items : List Item}

theorem firstLeast_eq_some {item : Item} (found : firstLeast key bound items = some item) :
    item ∈ items ∧ ∀ other ∈ items, key item ≤ key other := by
  obtain ⟨-, least, kept⟩ := foldl_keepLess key (bound, none) items
  cases kept with
  | inl same =>
    rw [firstLeast, same] at found
    cases found
  | inr replaced =>
    obtain ⟨other, member, same, -⟩ := replaced
    rw [firstLeast, same] at found
    cases found
    rw [same] at least
    exact ⟨member, least⟩

theorem firstLeast_eq_none (none : firstLeast key bound items = none) : ∀ item ∈ items, bound ≤ key item := by
  obtain ⟨-, least, kept⟩ := foldl_keepLess key (bound, Option.none) items
  cases kept with
  | inl same =>
    rw [same] at least
    exact least
  | inr replaced =>
    obtain ⟨other, -, same, -⟩ := replaced
    rw [firstLeast, same] at none
    cases none

end

/-! ## The latest reading -/

def latest (read : Item → Option Reading) (items : List Item) : Option Reading := items.reverse.findSome? read

variable {read : Item → Option Reading} {step : State → Item → State}

@[simp] theorem latest_nil : latest read [] = none := rfl

@[simp] theorem latest_snoc (items : List Item) (item : Item) :
    latest read (items ++ [item]) = (read item).or (latest read items) := by
  simp only [latest, List.reverse_append, List.reverse_singleton, List.singleton_append, List.findSome?_cons]
  cases read item with
  | none => rfl
  | some reading => rfl

/-- A view that each item with a reading replaces shows the latest reading. -/
theorem view_foldl {View : Type} (view : State → View) {shown : Reading → View}
    (single : ∀ state item, view (step state item) = ((read item).map shown).getD (view state))
    (start : State) (items : List Item) :
    view (items.foldl step start) = ((latest read items).map shown).getD (view start) := by
  induction items using List.reverseRecOn with
  | nil => rfl
  | append_singleton items item ih =>
    rw [List.foldl_append, List.foldl_cons, List.foldl_nil, single, ih, latest_snoc]
    cases read item with
    | none => rfl
    | some reading => rfl

/-! ## Values that are created, updated and lost -/

section
variable {Value : Type} (step : State → Item → State) (look : State → Option Value) (mine : Item → Bool)
  (update : Value → Item → Value) (blank : Value)

/-- Where a value is found, it was found before and only an item of its own has changed it, or an item
of its own has created it. -/
def Owned (state : State) (item : Item) : Prop :=
  ∀ value, look (step state item) = some value →
    (look state = none ∧ mine item = true ∧ value = update blank item) ∨
    ∃ old, look state = some old ∧ value = if mine item then update old item else old

variable {mine update blank}

/-- A value is what its own items have made of it since it was last created. -/
theorem since_created {start : State} (absent : look start = none) {items : List Item}
    (owned : ∀ before item after, items = before ++ item :: after →
      Owned step look mine update blank (before.foldl step start) item)
    {value : Value} (found : look (items.foldl step start) = some value) :
    ∃ before first rest, items = before ++ first :: rest ∧ mine first = true ∧
      look (before.foldl step start) = none ∧
      (∀ middle later, rest = middle ++ later →
        (look ((before ++ first :: middle).foldl step start)).isSome = true) ∧
      value = ((first :: rest).filter mine).foldl update blank := by
  induction items using List.reverseRecOn generalizing value with
  | nil =>
    rw [List.foldl_nil, absent] at found
    cases found
  | append_singleton items item ih =>
    have ends : (items ++ [item]).foldl step start = step (items.foldl step start) item := by
      rw [List.foldl_append, List.foldl_cons, List.foldl_nil]
    have last := owned items item [] rfl
    have isFound := found
    rw [ends] at found
    cases last value found with
    | inl created =>
      obtain ⟨missing, own, made⟩ := created
      refine ⟨items, item, [], rfl, own, missing, ?_, ?_⟩
      · intro middle later split
        obtain ⟨empty, -⟩ := List.append_eq_nil_iff.mp split.symm
        rw [empty, isFound]
        rfl
      · rw [List.filter_cons_of_pos own, made]
        rfl
    | inr kept =>
      obtain ⟨old, present, made⟩ := kept
      have earlier : ∀ before other after, items = before ++ other :: after →
          Owned step look mine update blank (before.foldl step start) other := by
        intro before other after split
        apply owned before other (after ++ [item])
        rw [split, List.append_assoc, List.cons_append]
      obtain ⟨before, first, rest, split, own, missing, stays, folded⟩ := ih earlier present
      refine ⟨before, first, rest ++ [item], ?_, own, missing, ?_, ?_⟩
      · rw [split, List.append_assoc, List.cons_append]
      · intro middle later parts
        cases later using List.reverseRecOn with
        | nil =>
          rw [List.append_nil] at parts
          rw [← parts, ← List.cons_append, ← List.append_assoc, ← split, isFound]
          rfl
        | append_singleton later other =>
          rw [← List.append_assoc] at parts
          exact stays middle later (List.append_inj_left' parts rfl)
      · rw [← List.cons_append, List.filter_append, List.foldl_append, ← folded, made]
        cases own : mine item with
        | false => simp [own]
        | true => simp [own]

end

end Scan
