import Conduit.Run.Flow
import Conduit.Proofs.Memory

/-!
# What writing leaves alone

To store a stuff is to write to one slot, and to the main name as well if it is the latest result.
All other slots and aliases are as they were. A name may still lead to another stuff than before
without having been written to, for it may be an alias of a slot that has been.
-/

namespace Conduit

namespace WorkingMemory

variable {memory middle later : WorkingMemory} {names names' : List String} {name : String}
variable {stuff : Stuff}

/-- No slot and no alias has been written to outside of these names. -/
structure Untouched (names : List String) (memory later : WorkingMemory) : Prop where
  slots : ∀ name, name ∉ names → later.slots.get? name = memory.slots.get? name
  aliases : ∀ name, name ∉ names → later.aliases.get? name = memory.aliases.get? name

/-- Every name leads to the same stuff as before, unless it is among these names or an alias of one
of them. -/
def SameApart (names : List String) (memory later : WorkingMemory) : Prop :=
  ∀ name, name ∉ names → (∀ target ∈ names, memory.aliases.get? name ≠ some target) →
    later.find? name = memory.find? name

namespace Untouched

theorem refl (names : List String) (memory : WorkingMemory) : Untouched names memory memory :=
  ⟨fun _ _ => rfl, fun _ _ => rfl⟩

theorem trans (h : Untouched names memory middle) (h' : Untouched names middle later) :
    Untouched names memory later := by
  constructor
  · intro name apart
    rw [h'.slots name apart, h.slots name apart]
  · intro name apart
    rw [h'.aliases name apart, h.aliases name apart]

theorem mono (h : Untouched names memory later) (more : names ⊆ names') :
    Untouched names' memory later := by
  constructor
  · intro name apart
    exact h.slots name fun member => apart (more member)
  · intro name apart
    exact h.aliases name fun member => apart (more member)

theorem store (memory : WorkingMemory) (name : String) (stuff : Stuff) :
    Untouched [name] memory (memory.store name stuff) := by
  constructor
  · intro other apart
    rw [List.mem_singleton] at apart
    rw [WorkingMemory.store, OrderedMap.get?_insert, if_neg apart]
  · intro other apart
    rw [List.mem_singleton] at apart
    rw [WorkingMemory.store, OrderedMap.get?_erase, if_neg apart]

theorem storeMain (memory : WorkingMemory) (name : String) (stuff : Stuff) :
    Untouched [name, mainName] memory (memory.storeMain name stuff) := by
  have stored : Untouched [name, mainName] memory (memory.store name stuff) :=
    (store memory name stuff).mono (List.cons_subset_cons _ (List.nil_subset _))
  constructor
  · intro other apart
    rw [storeMain_slots]
    exact stored.slots other apart
  · intro other apart
    have notMain : other ≠ mainName := by
      rintro rfl
      simp at apart
    rw [← stored.aliases other apart, WorkingMemory.storeMain]
    split
    · rfl
    · exact (OrderedMap.get?_insert _ _ _ _).trans (if_neg notMain)

/-- After other things have been written, something is stored as the latest result. -/
theorem thenStoreMain (h : Untouched names memory later) (name : String) (stuff : Stuff) :
    Untouched (names ++ [name, mainName]) memory (later.storeMain name stuff) :=
  (h.mono (List.subset_append_left _ _)).trans
    ((storeMain later name stuff).mono (List.subset_append_right _ _))

/-- The results of branches are written to their own names. -/
theorem keepResults (memory : WorkingMemory) (results : List (String × Stuff)) :
    Untouched (results.map Prod.fst) memory (Library.keepResults memory results) := by
  induction results generalizing memory with
  | nil => exact refl [] memory
  | cons result results ih =>
      rw [List.map_cons]
      have first := (store memory result.1 result.2).mono
        (List.cons_subset_cons result.1 (List.nil_subset (results.map Prod.fst)))
      exact first.trans ((ih _).mono (List.subset_cons_self _ _))

/-- A name leads to a slot directly or by an alias, and neither has been written to. -/
theorem sameApart (h : Untouched names memory later) : SameApart names memory later := by
  intro name apart elsewhere
  rw [find?, find?, h.slots name apart, h.aliases name apart]
  cases memory.slots.get? name with
  | some stuff => rfl
  | none =>
      cases leads : memory.aliases.get? name with
      | none => rfl
      | some target => exact h.slots target fun member => elsewhere target member leads

end Untouched

theorem find?_store_self (memory : WorkingMemory) (name : String) (stuff : Stuff) :
    (memory.store name stuff).find? name = some (stuff.rename name) := by
  rw [find?, get?_store_self]

end WorkingMemory

end Conduit
