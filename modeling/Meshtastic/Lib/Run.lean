import Mathlib.Logic.Function.Basic
import Mathlib.Logic.Relation

/-! Runs of a partial step function. A step that yields `none` never completes, so a
run exists only when all of its steps complete. -/

namespace Transition

variable {State Label : Type}

def run (step : State → Label → Option State) : State → List Label → Option State
  | state, [] => some state
  | state, label :: rest => (step state label).bind (fun next => run step next rest)

/-- Every step of the run is taken where `allowed` admits it. -/
def Guarded (step : State → Label → Option State) (allowed : State → Label → Prop) :
    State → List Label → Prop
  | _, [] => True
  | state, label :: rest => allowed state label ∧
      ∀ next, step state label = some next → Guarded step allowed next rest

variable {step : State → Label → Option State} {allowed : State → Label → Prop}

def Guarded.decide [∀ state label, Decidable (allowed state label)] :
    ∀ (state : State) (labels : List Label), Decidable (Guarded step allowed state labels)
  | _, [] => isTrue trivial
  | state, label :: rest =>
    match taken : step state label with
    | none => decidable_of_iff (allowed state label)
        ⟨fun here => ⟨here, fun next some => by rw [taken] at some; contradiction⟩, fun both => both.1⟩
    | some next =>
      haveI := Guarded.decide next rest
      decidable_of_iff (allowed state label ∧ Guarded step allowed next rest)
        ⟨fun both => ⟨both.1, fun other some => by rw [taken] at some; cases some; exact both.2⟩,
          fun both => ⟨both.1, both.2 next taken⟩⟩

instance [∀ state label, Decidable (allowed state label)] (state : State) (labels : List Label) :
    Decidable (Guarded step allowed state labels) := Guarded.decide state labels

@[simp] theorem run_nil (state : State) : run step state [] = some state := rfl

theorem run_cons_eq_some {state last : State} {label : Label} {rest : List Label} :
    run step state (label :: rest) = some last ↔
      ∃ next, step state label = some next ∧ run step next rest = some last := by
  simp [run, Option.bind_eq_some_iff]

/-- Invariant rule: what every admitted step preserves holds at the end of every guarded run. -/
theorem run_invariant {invariant : State → Prop}
    (preserved : ∀ state label next, invariant state → allowed state label →
      step state label = some next → invariant next)
    {state last : State} {labels : List Label} (start : invariant state)
    (guarded : Guarded step allowed state labels) (whole : run step state labels = some last) :
    invariant last := by
  induction labels generalizing state with
  | nil =>
    cases whole
    exact start
  | cons label rest ih =>
    obtain ⟨next, taken, later⟩ := run_cons_eq_some.mp whole
    exact ih (preserved state label next start guarded.1 taken) (guarded.2 next taken) later

theorem chain_invariant {change : State → State → Prop} (invariant : State → Prop)
    (kept : ∀ state next, change state next → invariant state → invariant next)
    {state last : State} (chain : Relation.ReflTransGen change state last) (start : invariant state) :
    invariant last := by
  induction chain with
  | refl => exact start
  | tail _ one ih => exact kept _ _ one ih

theorem guarded_of_forall {labels : List Label} (all : ∀ state, ∀ label ∈ labels, allowed state label) (state : State) :
    Guarded step allowed state labels := by
  induction labels generalizing state with
  | nil => trivial
  | cons label rest ih =>
    refine ⟨all state label List.mem_cons_self, fun next _ => ih ?_ next⟩
    intro other later member
    exact all other later (List.mem_cons_of_mem _ member)

theorem guarded_true (state : State) (labels : List Label) :
    Guarded step (fun _ _ => True) state labels :=
  guarded_of_forall (fun _ _ _ => trivial) state

/-- Every step of the run is good, from the state before it to the state behind it. -/
def Each (step : State → Label → Option State) (good : State → Label → State → Prop) : State → List Label → Prop
  | _, [] => True
  | state, label :: rest => ∀ next, step state label = some next → good state label next ∧ Each step good next rest

/-- When, under an invariant, a step is good exactly where it is admitted, all steps of a run are good
exactly when the run is guarded. -/
theorem each_iff_guarded_of_invariant {invariant : State → Prop} {good : State → Label → State → Prop}
    (preserved : ∀ state label next, invariant state → step state label = some next → invariant next)
    (single : ∀ state label next, invariant state → step state label = some next →
      (good state label next ↔ allowed state label))
    {state last : State} {labels : List Label} (start : invariant state) (whole : run step state labels = some last) :
    Each step good state labels ↔ Guarded step allowed state labels := by
  induction labels generalizing state with
  | nil => exact Iff.rfl
  | cons label rest ih =>
    obtain ⟨next, taken, later⟩ := run_cons_eq_some.mp whole
    have here := single state label next start taken
    have behind := ih (preserved state label next start taken) later
    constructor
    · intro each
      refine ⟨here.mp (each next taken).1, ?_⟩
      intro other same
      rw [taken] at same
      cases same
      exact behind.mp (each next taken).2
    · intro guarded other same
      rw [taken] at same
      cases same
      exact ⟨here.mpr guarded.1, behind.mpr (guarded.2 next taken)⟩

theorem each_of_invariant {invariant : State → Prop} {good : State → Label → State → Prop}
    (single : ∀ state label next, invariant state → step state label = some next →
      good state label next ∧ invariant next) {state : State} (start : invariant state) (labels : List Label) :
    Each step good state labels := by
  induction labels generalizing state with
  | nil => trivial
  | cons label rest ih =>
    intro next taken
    obtain ⟨here, after⟩ := single state label next start taken
    exact ⟨here, ih after⟩

/-- When a step is good exactly where it is admitted, all steps of a run are good exactly when the run
is guarded. -/
theorem each_iff_guarded {good : State → Label → State → Prop}
    (single : ∀ state label next, step state label = some next → (good state label next ↔ allowed state label))
    {state last : State} {labels : List Label} (whole : run step state labels = some last) :
    Each step good state labels ↔ Guarded step allowed state labels := by
  have always : ∀ state label next, True → step state label = some next → True := fun _ _ _ _ _ => trivial
  apply each_iff_guarded_of_invariant always _ trivial whole
  intro state label next _ taken
  exact single state label next taken

/-- When each step is one of another machine under a view, the whole run is a run of that machine. -/
theorem run_of_each {Other : Type} {view : State → Other} {other : Other → Label → Option Other}
    {state last : State} {labels : List Label}
    (each : Each step (fun state label next => other (view state) label = some (view next)) state labels)
    (whole : run step state labels = some last) : run other (view state) labels = some (view last) := by
  induction labels generalizing state with
  | nil =>
    cases whole
    rfl
  | cons label rest ih =>
    obtain ⟨next, taken, later⟩ := run_cons_eq_some.mp whole
    obtain ⟨here, behind⟩ := each next taken
    exact run_cons_eq_some.mpr ⟨view next, here, ih behind later⟩

theorem each_congr {good other : State → Label → State → Prop}
    (single : ∀ state label next, step state label = some next → (good state label next ↔ other state label next))
    (state : State) (labels : List Label) : Each step good state labels ↔ Each step other state labels := by
  induction labels generalizing state with
  | nil => exact Iff.rfl
  | cons label rest ih =>
    apply forall_congr'
    intro next
    apply forall_congr'
    intro taken
    rw [single state label next taken, ih next]

def Always (step : State → Label → Option State) (good : State → Prop) : State → List Label → Prop
  | state, [] => good state
  | state, label :: rest => good state ∧ ∀ next, step state label = some next → Always step good next rest

/-- Invariant rule for all states of a run. -/
theorem always_of_invariant {invariant good : State → Prop}
    (preserved : ∀ state label next, invariant state → allowed state label →
      step state label = some next → invariant next)
    (enough : ∀ state, invariant state → good state) {state : State} {labels : List Label} (start : invariant state)
    (guarded : Guarded step allowed state labels) : Always step good state labels := by
  induction labels generalizing state with
  | nil => exact enough state start
  | cons label rest ih =>
    refine ⟨enough state start, ?_⟩
    intro next taken
    exact ih (preserved state label next start guarded.1 taken) (guarded.2 next taken)

theorem Always.first {good : State → Prop} {state : State} {labels : List Label}
    (always : Always step good state labels) : good state := by
  cases labels with
  | nil => exact always
  | cons label rest => exact always.1

/-- When a step leads from a good state to a good one exactly where it is admitted, all states of a run are
good exactly when the run is guarded. -/
theorem always_iff_guarded {invariant good : State → Prop}
    (preserved : ∀ state label next, invariant state → step state label = some next → invariant next)
    (single : ∀ state label next, invariant state → good state → step state label = some next →
      (good next ↔ allowed state label))
    {state last : State} {labels : List Label} (start : invariant state) (startGood : good state)
    (whole : run step state labels = some last) :
    Always step good state labels ↔ Guarded step allowed state labels := by
  induction labels generalizing state with
  | nil => exact ⟨fun _ => trivial, fun _ => startGood⟩
  | cons label rest ih =>
    obtain ⟨next, taken, later⟩ := run_cons_eq_some.mp whole
    have admitted := single state label next start startGood taken
    have kept := preserved state label next start taken
    have only : ∀ {fact : State → Prop}, (∀ other, step state label = some other → fact other) ↔ fact next := by
      intro fact
      constructor
      · exact fun all => all next taken
      · intro holds other same
        rw [taken] at same
        cases same
        exact holds
    simp only [Always, Guarded, only]
    constructor
    · intro always
      have good := always.2.first
      exact ⟨admitted.mp good, (ih kept good later).mp always.2⟩
    · intro guarded
      have good := admitted.mpr guarded.1
      exact ⟨startGood, (ih kept good later).mpr guarded.2⟩

theorem Always.middle {good : State → Prop} {state middle : State} {before after : List Label}
    (always : Always step good state (before ++ after)) (reached : run step state before = some middle) :
    Always step good middle after := by
  induction before generalizing state with
  | nil =>
    cases reached
    exact always
  | cons label rest ih =>
    obtain ⟨next, taken, later⟩ := run_cons_eq_some.mp reached
    exact ih (always.2 next taken) later

theorem run_append_eq_some {state last : State} {before after : List Label} :
    run step state (before ++ after) = some last ↔
      ∃ middle, run step state before = some middle ∧ run step middle after = some last := by
  induction before generalizing state with
  | nil => simp
  | cons label rest ih =>
    simp only [List.cons_append, run_cons_eq_some, ih]
    constructor
    · intro whole
      obtain ⟨next, taken, middle, first, second⟩ := whole
      exact ⟨middle, ⟨next, taken, first⟩, second⟩
    · intro whole
      obtain ⟨middle, ⟨next, taken, first⟩, second⟩ := whole
      exact ⟨next, taken, middle, first, second⟩

/-- When, under an invariant, exactly the admitted steps complete, exactly the guarded runs do. -/
theorem completes_iff_guarded {invariant : State → Prop}
    (single : ∀ state label, invariant state → ((∃ next, step state label = some next) ↔ allowed state label))
    (preserved : ∀ state label next, invariant state → step state label = some next → invariant next)
    {state : State} (start : invariant state) (labels : List Label) :
    (∃ last, run step state labels = some last) ↔ Guarded step allowed state labels := by
  induction labels generalizing state with
  | nil => exact ⟨fun _ => trivial, fun _ => ⟨state, rfl⟩⟩
  | cons label rest ih =>
    constructor
    · intro whole
      obtain ⟨last, completed⟩ := whole
      obtain ⟨next, taken, later⟩ := run_cons_eq_some.mp completed
      refine ⟨(single state label start).mp ⟨next, taken⟩, ?_⟩
      intro other same
      rw [taken] at same
      cases same
      exact (ih (preserved state label next start taken)).mp ⟨last, later⟩
    · intro guarded
      obtain ⟨next, taken⟩ := (single state label start).mpr guarded.1
      obtain ⟨last, later⟩ := (ih (preserved state label next start taken)).mpr (guarded.2 next taken)
      exact ⟨last, run_cons_eq_some.mpr ⟨next, taken, later⟩⟩

/-- When each label can always be taken, establishes its own fact and keeps those of the others, a run
completes in any order and leaves all facts true. -/
theorem run_establishes {fact : Label → State → Prop} {labels : List Label}
    (single : ∀ label ∈ labels, ∀ state, ∃ next, step state label = some next ∧ fact label next ∧
      ∀ other, fact other state → fact other next) (state : State) :
    ∃ last, run step state labels = some last ∧ (∀ label ∈ labels, fact label last) ∧
      ∀ other, fact other state → fact other last := by
  induction labels generalizing state with
  | nil =>
    refine ⟨state, rfl, ?_, fun _ holds => holds⟩
    intro label none
    cases none
  | cons label rest ih =>
    obtain ⟨next, taken, own, kept⟩ := single label List.mem_cons_self state
    obtain ⟨last, later, established, keptLater⟩ :=
      ih (fun other member => single other (List.mem_cons_of_mem label member)) next
    refine ⟨last, run_cons_eq_some.mpr ⟨next, taken, later⟩, ?_, fun other holds => keptLater other (kept other holds)⟩
    intro other member
    cases List.mem_cons.mp member with
    | inl same =>
      rw [same]
      exact keptLater label own
    | inr behind => exact established other behind

/-! ## Machines that answer every label -/

section
variable {Answer Abstract : Type}

def answers (respond : State → Label → State × Answer) : State → List Label → State × List Answer
  | state, [] => (state, [])
  | state, label :: rest =>
    let next := respond state label
    let later := answers respond next.1 rest
    (later.1, next.2 :: later.2)

variable {respond : State → Label → State × Answer} {respondAbstract : Abstract → Label → Abstract × Answer}

theorem answers_append (state : State) (before after : List Label) :
    (answers respond state (before ++ after)).1 = (answers respond (answers respond state before).1 after).1 := by
  induction before generalizing state with
  | nil => rfl
  | cons label rest ih => exact ih (respond state label).1

theorem answers_invariant (invariant : State → Prop)
    (single : ∀ state label, invariant state → invariant (respond state label).1) {state : State}
    (start : invariant state) (labels : List Label) : invariant (answers respond state labels).1 := by
  induction labels generalizing state with
  | nil => exact start
  | cons label rest ih => exact ih (single state label start)

/-- Simulation rule: when single answers agree under an abstraction and the invariant is kept, whole
conversations agree. -/
theorem answers_simulation (abstraction : State → Abstract) (invariant : State → Prop)
    (single : ∀ state label, invariant state → invariant (respond state label).1 ∧
      respondAbstract (abstraction state) label =
        (abstraction (respond state label).1, (respond state label).2))
    {state : State} (start : invariant state) (labels : List Label) :
    invariant (answers respond state labels).1 ∧
      answers respondAbstract (abstraction state) labels =
        (abstraction (answers respond state labels).1, (answers respond state labels).2) := by
  induction labels generalizing state with
  | nil => exact ⟨start, rfl⟩
  | cons label rest ih =>
    obtain ⟨kept, same⟩ := single state label start
    obtain ⟨keptLater, sameLater⟩ := ih kept
    refine ⟨keptLater, ?_⟩
    simp only [answers, same, sameLater]

end

end Transition
