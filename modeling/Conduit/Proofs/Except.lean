import Mathlib.Data.List.Forall2

/-!
# Results that may be failures

A computation that stops at the first failure succeeds exactly if all its parts do, and fails only
as one of them does.
-/

namespace Conduit

/-- Whether a result is a certain success can be found out. -/
instance decidableEqOk {ε α : Type} [DecidableEq α] (result : Except ε α) (value : α) :
    Decidable (result = .ok value) :=
  match result with
  | .error _ => .isFalse nofun
  | .ok found => decidable_of_iff (found = value) (by rw [Except.ok.injEq])

theorem except_bind_eq_ok {ε α β : Type} {first : Except ε α} {next : α → Except ε β} {value : β} :
    (first >>= next) = .ok value ↔ ∃ a, first = .ok a ∧ next a = .ok value := by
  cases first <;> simp [bind, Except.bind]

theorem except_map_eq_ok {ε α β : Type} {result : Except ε α} {f : α → β} {value : β} :
    result.map f = .ok value ↔ ∃ a, result = .ok a ∧ f a = value := by
  cases result <;> simp [Except.map]

theorem except_mapError_eq_ok {ε ε' α : Type} {result : Except ε α} {f : ε → ε'} {value : α} :
    result.mapError f = .ok value ↔ result = .ok value := by
  cases result with
  | error fault => exact ⟨nofun, nofun⟩
  | ok found =>
      constructor
      all_goals
        rintro ⟨⟩
        rfl

theorem except_mapM_congr {ε α β : Type} {items : List α} {f f' : α → Except ε β}
    (same : ∀ item ∈ items, f item = f' item) : items.mapM f = items.mapM f' := by
  induction items with
  | nil => rfl
  | cons item items ih =>
      rw [List.mapM_cons, List.mapM_cons, same item List.mem_cons_self,
        ih fun other member => same other (List.mem_cons_of_mem _ member)]

/-- Where a traversal succeeds, each of its values is that of an item. -/
theorem forall₂_of_mapM_eq_ok {ε α β : Type} {items : List α} {f : α → Except ε β} {values : List β}
    (ok : items.mapM f = .ok values) :
    List.Forall₂ (fun item value => f item = .ok value) items values := by
  induction items generalizing values with
  | nil =>
      cases ok
      exact .nil
  | cons item items ih =>
      rw [List.mapM_cons] at ok
      obtain ⟨value, here, ok⟩ := except_bind_eq_ok.1 ok
      obtain ⟨others, there, ok⟩ := except_bind_eq_ok.1 ok
      cases ok
      exact .cons here (ih there)

/-- What every step that succeeds preserves, a fold that succeeds preserves. -/
theorem except_foldlM_preserves {ε α β : Type} {f : β → α → Except ε β} (property : β → Prop)
    {items : List α} {state later : β} (holds : property state)
    (step : ∀ {state item later}, property state → f state item = .ok later → property later)
    (folded : items.foldlM f state = .ok later) : property later := by
  induction items generalizing state with
  | nil =>
      cases folded
      exact holds
  | cons item items ih =>
      rw [List.foldlM_cons] at folded
      obtain ⟨middle, stepped, folded⟩ := except_bind_eq_ok.1 folded
      exact ih (step holds stepped) folded

/-- If the result is a failure, then with one of these errors. -/
def FailsOnly {ε α : Type} (faults : ε → Prop) (result : Except ε α) : Prop :=
  ∀ error, result = .error error → faults error

namespace FailsOnly

variable {ε α β : Type} {faults : ε → Prop}

theorem ok (value : α) : FailsOnly faults (.ok value) :=
  nofun

theorem error {error : ε} (fault : faults error) :
    FailsOnly faults (.error error : Except ε α) := by
  rintro _ ⟨⟩
  exact fault

theorem mono {faults' : ε → Prop} {result : Except ε α} (h : FailsOnly faults result)
    (weaker : ∀ error, faults error → faults' error) : FailsOnly faults' result :=
  fun error failed => weaker error (h error failed)

theorem bind {first : Except ε α} {next : α → Except ε β} (h : FailsOnly faults first)
    (rest : ∀ value, first = .ok value → FailsOnly faults (next value)) :
    FailsOnly faults (first >>= next) := by
  cases first with
  | error fault => exact error (h fault rfl)
  | ok value => exact rest value rfl

theorem map {result : Except ε α} (f : α → β) (h : FailsOnly faults result) :
    FailsOnly faults (result.map f) := by
  cases result with
  | error fault => exact error (h fault rfl)
  | ok value => exact ok (f value)

theorem mapM {items : List α} {f : α → Except ε β}
    (h : ∀ item ∈ items, FailsOnly faults (f item)) : FailsOnly faults (items.mapM f) := by
  induction items with
  | nil => exact ok []
  | cons item items ih =>
      rw [List.mapM_cons]
      refine (h item List.mem_cons_self).bind fun value _ => ?_
      have rest := ih fun other member => h other (List.mem_cons_of_mem _ member)
      exact rest.bind fun values _ => ok (value :: values)

theorem foldlM {items : List α} {f : β → α → Except ε β}
    (h : ∀ state, ∀ item ∈ items, FailsOnly faults (f state item)) (state : β) :
    FailsOnly faults (items.foldlM f state) := by
  induction items generalizing state with
  | nil => exact ok state
  | cons item items ih =>
      rw [List.foldlM_cons]
      exact (h state item List.mem_cons_self).bind fun later _ =>
        ih (fun state other member => h state other (List.mem_cons_of_mem _ member)) later

theorem forM {items : List α} {f : α → Except ε Unit}
    (h : ∀ item ∈ items, FailsOnly faults (f item)) : FailsOnly faults (items.forM f) := by
  induction items with
  | nil => exact ok ()
  | cons item items ih =>
      rw [List.forM]
      exact (h item List.mem_cons_self).bind fun _ _ =>
        ih fun item member => h item (List.mem_cons_of_mem _ member)

end FailsOnly

end Conduit
