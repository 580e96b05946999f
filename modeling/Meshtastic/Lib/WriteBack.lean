import Mathlib.Data.List.Basic

/-! Writing entries back to stable storage behind the back of those who change them. A change owes a request,
a request arms a save, and a save visits the entries one by one; in between, anything may change again. -/

namespace WriteBack

variable {Key : Type}

/-- How far the saving of entries is. `saving` lists the entries that a running save has still to visit, and
`failed` tells whether the last one was given up. -/
structure Progress (Key : Type) where
  owed : Nat := 0
  armed : Bool := false
  saving : Option (List Key) := none
  failed : Bool := false

namespace Progress

/-- A save of the entry is still to come, or was given up. -/
def Due (progress : Progress Key) (key : Key) : Prop :=
  0 < progress.owed ∨ progress.armed = true ∨
    match progress.saving with
    | some rest => key ∈ rest
    | none => progress.failed = true

structure Idle (progress : Progress Key) : Prop where
  owed : progress.owed = 0
  armed : progress.armed = false
  saving : progress.saving = none
  failed : progress.failed = false

instance (progress : Progress Key) : Decidable progress.Idle :=
  decidable_of_iff
    (progress.owed = 0 ∧ progress.armed = false ∧ progress.saving.isNone = true ∧ progress.failed = false)
    ⟨fun all => ⟨all.1, all.2.1, Option.isNone_iff_eq_none.mp all.2.2.1, all.2.2.2⟩,
      fun idle => ⟨idle.owed, idle.armed, Option.isNone_iff_eq_none.mpr idle.saving, idle.failed⟩⟩

def owe (progress : Progress Key) : Progress Key := { progress with owed := progress.owed + 1 }

def ask (progress : Progress Key) : Progress Key := { progress with owed := progress.owed - 1, armed := true }

def begin (progress : Progress Key) (keys : List Key) : Progress Key :=
  { progress with armed := false, saving := some keys }

def wrote (progress : Progress Key) (rest : List Key) : Progress Key :=
  match rest with
  | [] => { progress with saving := none, failed := false }
  | _ :: _ => { progress with saving := some rest }

def giveUp (progress : Progress Key) : Progress Key := { progress with saving := none, failed := true }

/-- Every entry is up to date in stable storage, or a save of it is due. -/
def Covers (progress : Progress Key) (fresh : Key → Prop) : Prop := ∀ key, fresh key ∨ progress.Due key

variable {progress : Progress Key} {fresh : Key → Prop}

theorem Covers.of_fresh (all : ∀ key, fresh key) : progress.Covers fresh := fun key => Or.inl (all key)

theorem Covers.idle (covers : progress.Covers fresh) (idle : progress.Idle) (key : Key) : fresh key := by
  rcases covers key with here | due
  · exact here
  · simp [Due, idle.owed, idle.armed, idle.saving, idle.failed] at due

theorem covers_owe (progress : Progress Key) (fresh : Key → Prop) : progress.owe.Covers fresh :=
  fun _ => Or.inr (Or.inl (Nat.succ_pos _))

theorem covers_ask (progress : Progress Key) (fresh : Key → Prop) : progress.ask.Covers fresh :=
  fun _ => Or.inr (Or.inr (Or.inl rfl))

theorem covers_begin (progress : Progress Key) (fresh : Key → Prop) {keys : List Key} (all : ∀ key, key ∈ keys) :
    (progress.begin keys).Covers fresh :=
  fun key => Or.inr (Or.inr (Or.inr (all key)))

theorem covers_giveUp (progress : Progress Key) (fresh : Key → Prop) : progress.giveUp.Covers fresh :=
  fun _ => Or.inr (Or.inr (Or.inr rfl))

theorem Covers.wrote (covers : progress.Covers fresh) {key : Key} {rest : List Key}
    (saving : progress.saving = some (key :: rest)) {fresh' : Key → Prop} (here : fresh' key)
    (others : ∀ other, other ≠ key → fresh other → fresh' other) : (progress.wrote rest).Covers fresh' := by
  intro other
  by_cases same : other = key
  · rw [same]
    exact Or.inl here
  · rcases covers other with before | due
    · exact Or.inl (others other same before)
    · right
      simp only [Due, saving, List.mem_cons, same, false_or] at due
      cases rest with
      | nil =>
        rcases due with owed | armed | none
        · exact Or.inl owed
        · exact Or.inr (Or.inl armed)
        · exact absurd none List.not_mem_nil
      | cons next later => exact due

end Progress

end WriteBack
