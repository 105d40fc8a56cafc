import Conduit.Proofs.Memory

/-!
# What a memory shows

Templates and expressions see a memory as an object. It is written field by field, first the slots
and then those aliases whose names no slot has taken. A look-up in the memory goes another way: it
tries the slot of the name, and follows the alias if there is none. Both come to the same.
-/

namespace Conduit

theorem Json.lookup_insertField (key : String) (value : Json) (fields : List (String × Json))
    (k : String) :
    (insertField key value fields).lookup k = if k = key then some value else fields.lookup k := by
  induction fields with
  | nil => rw [insertField, OrderedMap.lookup_cons_eq_ite]
  | cons field fields ih =>
      obtain ⟨key', value'⟩ := field
      rw [insertField]
      by_cases below : key < key'
      · rw [if_pos below, OrderedMap.lookup_cons_eq_ite]
      · rw [if_neg below]
        by_cases same : key = key'
        · subst same
          by_cases here : k = key <;> simp [OrderedMap.lookup_cons_eq_ite, here]
        · rw [if_neg same, OrderedMap.lookup_cons_eq_ite, OrderedMap.lookup_cons_eq_ite, ih]
          by_cases here : k = key
          · have elsewhere : k ≠ key' := fun there => same (here.symm.trans there)
            rw [if_neg elsewhere, if_pos here, if_pos here]
          · rw [if_neg here, if_neg here]

namespace WorkingMemory

/-- The fields with the field of an alias among them, unless its name is taken. -/
def showAlias (memory : WorkingMemory) (fields : List (String × Json)) (entry : String × String) :
    List (String × Json) :=
  match memory.slots.get? entry.2 with
  | some stuff =>
    if (fields.lookup entry.1).isSome then fields
    else Json.insertField entry.1 stuff.content.view fields
  | none => fields

theorem view_eq (memory : WorkingMemory) :
    memory.view = .object (memory.aliases.entries.foldl memory.showAlias memory.slotViews) := rfl

theorem lookup_slotViews (memory : WorkingMemory) (name : String) :
    memory.slotViews.lookup name = (memory.slots.get? name).map (·.content.view) := by
  have written : ∀ (entries : List (String × Stuff)) (fields : List (String × Json)),
      (entries.map Prod.fst).Nodup →
      (entries.foldl (fun fields entry =>
        Json.insertField entry.1 entry.2.content.view fields) fields).lookup name =
      ((entries.lookup name).map (·.content.view)).or (fields.lookup name) := by
    intro entries
    induction entries with
    | nil => simp
    | cons entry entries ih =>
        intro fields distinct
        rw [List.map_cons, List.nodup_cons] at distinct
        rw [List.foldl_cons, ih _ distinct.2, Json.lookup_insertField,
          OrderedMap.lookup_cons_eq_ite]
        by_cases here : name = entry.1
        · subst here
          simp [OrderedMap.lookup_eq_none distinct.1]
        · simp [here]
  rw [slotViews, written _ [] memory.slots.distinct]
  simp [OrderedMap.get?]

theorem lookup_showAlias (memory : WorkingMemory) (fields : List (String × Json))
    (entry : String × String) (name : String) :
    (memory.showAlias fields entry).lookup name =
      (fields.lookup name).or (if name = entry.1 then
        (memory.slots.get? entry.2).map (·.content.view) else none) := by
  unfold showAlias
  cases memory.slots.get? entry.2 with
  | none => simp
  | some stuff =>
      dsimp only
      by_cases here : name = entry.1
      · subst here
        cases taken : fields.lookup entry.1 <;> simp [taken, Json.lookup_insertField]
      · split <;> simp [Json.lookup_insertField, here]

/-- The fields that a memory shows are the names that lead to stuffs, each with the view of its
stuff. -/
theorem field?_view (memory : WorkingMemory) (name : String) :
    memory.view.field? name = (memory.find? name).map (·.content.view) := by
  have written : ∀ (entries : List (String × String)) (fields : List (String × Json)),
      (entries.map Prod.fst).Nodup →
      (entries.foldl memory.showAlias fields).lookup name =
        (fields.lookup name).or
          (((entries.lookup name).bind memory.slots.get?).map (·.content.view)) := by
    intro entries
    induction entries with
    | nil => simp
    | cons entry entries ih =>
        intro fields distinct
        rw [List.map_cons, List.nodup_cons] at distinct
        rw [List.foldl_cons, ih _ distinct.2, lookup_showAlias, OrderedMap.lookup_cons_eq_ite]
        by_cases here : name = entry.1
        · subst here
          simp [OrderedMap.lookup_eq_none distinct.1]
        · simp [here]
  rw [view_eq, Json.field?, written _ _ memory.aliases.distinct, lookup_slotViews, find?]
  cases memory.slots.get? name with
  | none => simp [OrderedMap.get?]
  | some stuff => rfl

end WorkingMemory

end Conduit
