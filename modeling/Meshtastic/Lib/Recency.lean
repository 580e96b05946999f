import Mathlib.Data.Fintype.Card
import Mathlib.Data.List.Basic
import Mathlib.Order.Basic

/-! A cache with a fixed number of entries, each of a node and seen last at some time. A node without an
entry takes a free one, or the one seen longest ago: a node loses its entry only after as many others
have come as there are entries. -/

namespace Recency

variable {Entry Node Time : Type} {size : Nat} [LinearOrder Time] (node : Entry → Option Node) (seen : Entry → Time)

/-- The place for a node's entry: its own, or else a free one, or else the one seen longest ago. -/
structure Places (entries : Fin size → Entry) (own : Node) (place : Fin size) : Prop where
  hit : ∀ i, node (entries i) = some own → i = place
  oldest : ∀ other, node (entries place) = some other → other ≠ own →
    ∀ i, node (entries i) ≠ none ∧ seen (entries place) ≤ seen (entries i)

/-- No node has two entries, and none was seen after `now`. -/
structure Valid (now : Time) (entries : Fin size → Entry) : Prop where
  distinct : ∀ i j own, node (entries i) = some own → node (entries j) = some own → i = j
  past : ∀ i, node (entries i) ≠ none → seen (entries i) ≤ now

variable {node seen} {entries : Fin size → Entry} {own other : Node} {place : Fin size} {entry : Entry}
  {now next start : Time}

theorem Valid.touch (valid : Valid node seen now entries) (later : now < next)
    (placed : Places node seen entries own place) (named : node entry = some own) (touched : seen entry = next) :
    Valid node seen next (Function.update entries place entry) where
  distinct := by
    intro i j own' first second
    by_cases here : i = place
    · by_cases there : j = place
      · exact here.trans there.symm
      · rw [here, Function.update_self, named] at first
        rw [Function.update_of_ne there] at second
        exact absurd (placed.hit j (second.trans first.symm)) there
    · by_cases there : j = place
      · rw [there, Function.update_self, named] at second
        rw [Function.update_of_ne here] at first
        exact absurd (placed.hit i (first.trans second.symm)) here
      · rw [Function.update_of_ne here] at first
        rw [Function.update_of_ne there] at second
        exact valid.distinct i j own' first second
  past := by
    intro i taken
    by_cases here : i = place
    · rw [here, Function.update_self]
      exact le_of_eq touched
    · rw [Function.update_of_ne here] at taken ⊢
      exact le_of_lt (lt_of_le_of_lt (valid.past i taken) later)

section
variable [DecidableEq Node] {good : Entry → Prop} {heard : List Node}

/-- Since `start`, when `own` was seen and its entry became good, the nodes in `heard` have come: either
`own` still has a good entry, or they are as many as there are entries. -/
structure Since (node : Entry → Option Node) (seen : Entry → Time) (own : Node) (start : Time) (good : Entry → Prop)
    (heard : List Node) (entries : Fin size → Entry) : Prop where
  recent : ∀ i other, node (entries i) = some other → other ≠ own → start ≤ seen (entries i) → other ∈ heard
  kept : (∃ i, node (entries i) = some own ∧ start ≤ seen (entries i) ∧ good (entries i)) ∨
    size ≤ (heard.toFinset.erase own).card

theorem Since.begin (valid : Valid node seen now entries) (later : now < start)
    (named : node entry = some own) (touched : seen entry = start) (isGood : good entry) :
    Since node seen own start good [] (Function.update entries place entry) where
  recent := by
    intro i other present different after
    by_cases here : i = place
    · rw [here, Function.update_self, named] at present
      exact absurd (Option.some.inj present).symm different
    · rw [Function.update_of_ne here] at present after
      have before := valid.past i (by rw [present]; nofun)
      exact absurd (lt_of_le_of_lt before later) (not_lt.mpr after)
  kept := by
    refine Or.inl ⟨place, ?_⟩
    rw [Function.update_self]
    exact ⟨named, le_of_eq touched.symm, isGood⟩

/-- When the entry of `own` makes room for another node, the nodes of all other entries have come since. -/
theorem Since.card_of_lost (since : Since node seen own start good heard entries) (valid : Valid node seen now entries)
    (placed : Places node seen entries other place) (mine : node (entries place) = some own) (different : other ≠ own)
    (recently : start ≤ seen (entries place)) : size ≤ ((heard ++ [other]).toFinset.erase own).card := by
  have full := placed.oldest own mine (Ne.symm different)
  -- every entry stands for a node that came: the lost one for the newcomer
  have came : ∀ i, ∃ who, (if i = place then who = other else node (entries i) = some who) ∧
      who ∈ (heard ++ [other]).toFinset.erase own := by
    intro i
    by_cases here : i = place
    · refine ⟨other, by rw [if_pos here], Finset.mem_erase.mpr ⟨different, ?_⟩⟩
      simp
    · obtain ⟨who, present⟩ := Option.ne_none_iff_exists'.mp (full i).1
      have foreign : who ≠ own := by
        intro same
        rw [same] at present
        exact here (valid.distinct i place own present mine)
      refine ⟨who, by rw [if_neg here]; exact present, Finset.mem_erase.mpr ⟨foreign, ?_⟩⟩
      have listed := since.recent i who present foreign (le_trans recently (full i).2)
      simp [listed]
  choose who stands listed using came
  have injective : Function.Injective fun i => (⟨who i, listed i⟩ : {x // x ∈ (heard ++ [other]).toFinset.erase own}) := by
    intro i j same
    have equal : who i = who j := congrArg Subtype.val same
    have first := stands i
    have second := stands j
    by_cases here : i = place
    · by_cases there : j = place
      · exact here.trans there.symm
      · rw [if_pos here] at first
        rw [if_neg there, ← equal, first] at second
        exact absurd (placed.hit j second) there
    · by_cases there : j = place
      · rw [if_pos there] at second
        rw [if_neg here, equal, second] at first
        exact absurd (placed.hit i first) here
      · rw [if_neg here, equal] at first
        rw [if_neg there] at second
        exact valid.distinct i j (who j) first second
  have count := Fintype.card_le_of_injective _ injective
  rwa [Fintype.card_fin, Fintype.card_coe] at count

theorem Since.touch (since : Since node seen own start good heard entries) (valid : Valid node seen now entries)
    (begun : start ≤ next) (placed : Places node seen entries other place) (named : node entry = some other)
    (touched : seen entry = next)
    (stays : other = own → node (entries place) = some own → good (entries place) → good entry) :
    Since node seen own start good (heard ++ [other]) (Function.update entries place entry) where
  recent := by
    intro i who present foreign after
    by_cases here : i = place
    · rw [here, Function.update_self, named] at present
      rw [← Option.some.inj present]
      exact List.mem_append_right heard List.mem_cons_self
    · rw [Function.update_of_ne here] at present after
      exact List.mem_append_left _ (since.recent i who present foreign after)
  kept := by
    cases since.kept with
    | inr many =>
      right
      apply le_trans many
      apply Finset.card_le_card
      apply Finset.erase_subset_erase
      intro who member
      rw [List.toFinset_append]
      exact Finset.mem_union_left _ member
    | inl still =>
      obtain ⟨i, mine, recently, isGood⟩ := still
      by_cases same : other = own
      · have here : i = place := placed.hit i (mine.trans (congrArg some same.symm))
        rw [here] at mine isGood
        refine Or.inl ⟨place, ?_⟩
        rw [Function.update_self]
        exact ⟨named.trans (congrArg some same), le_of_le_of_eq begun touched.symm, stays same mine isGood⟩
      · by_cases here : i = place
        · rw [here] at mine recently
          exact Or.inr (since.card_of_lost valid placed mine same recently)
        · refine Or.inl ⟨i, ?_⟩
          rw [Function.update_of_ne here]
          exact ⟨mine, recently, isGood⟩

end

end Recency
