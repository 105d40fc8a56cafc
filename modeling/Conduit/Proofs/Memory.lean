import Conduit.Memory.Basic

/-!
# What is found in a memory

A stuff that has been stored is found under the name of its slot, and bears that name. What is
found at all stands in some slot, also when an alias has led to it.
-/

namespace Conduit

namespace Stuff

/-- The content fits the concept. -/
def Fits (stuff : Stuff) : Prop :=
  misfit? stuff.concept stuff.content = none

instance (stuff : Stuff) : Decidable stuff.Fits :=
  inferInstanceAs (Decidable (_ = none))

@[simp] theorem rename_name (stuff : Stuff) (name : String) : (stuff.rename name).name = name := rfl

theorem Fits.rename {stuff : Stuff} (h : stuff.Fits) (name : String) : (stuff.rename name).Fits := h

theorem make_eq_ok {name : String} {concept : Concept} {content : Content} {stuff : Stuff} :
    make name concept content = .ok stuff ↔
      misfit? concept content = none ∧ stuff = ⟨name, concept, content⟩ := by
  rw [make]
  cases misfit? concept content <;> simp [eq_comm]

/-- Unless the concept is open, a single content fits it by its class. -/
theorem misfit?_single {concept : Concept} {content : Content} (closed : concept.isOpen = false)
    (single : content.isList = false) :
    misfit? concept content = none ↔ fitsOne concept content = true := by
  have items? : content.items? = none := by
    rwa [Content.isList, Option.isSome_eq_false_iff, Option.isNone_iff_eq_none] at single
  rw [misfit?, closed, items?]
  simp

/-- Unless the concept is open, a list fits it if its items are single and fit it by their class. -/
theorem misfit?_list {concept : Concept} {items : List Content} (closed : concept.isOpen = false) :
    misfit? concept (.list items) = none ↔
      ∀ item ∈ items, item.isList = false ∧ fitsOne concept item = true := by
  rw [misfit?, closed]
  simp [Content.items?, fitsItem]

theorem fits_of_make {name : String} {concept : Concept} {content : Content} {stuff : Stuff}
    (h : make name concept content = .ok stuff) : stuff.Fits := by
  obtain ⟨fit, rfl⟩ := make_eq_ok.1 h
  exact fit

end Stuff

namespace WorkingMemory

variable {memory : WorkingMemory} {name : String} {stuff : Stuff}

/-- Every stuff in a slot has a property. -/
def Every (property : Stuff → Prop) (memory : WorkingMemory) : Prop :=
  ∀ entry ∈ memory.slots.entries, property entry.2

/-- Every stuff in a slot fits its concept. -/
def Fits (memory : WorkingMemory) : Prop :=
  memory.Every Stuff.Fits

instance (memory : WorkingMemory) : Decidable memory.Fits :=
  inferInstanceAs (Decidable (∀ entry ∈ memory.slots.entries, entry.2.Fits))

@[simp] theorem storeMain_slots (memory : WorkingMemory) (name : String) (stuff : Stuff) :
    (memory.storeMain name stuff).slots = (memory.store name stuff).slots := by
  unfold storeMain
  dsimp only
  split <;> rfl

theorem get?_store_self (memory : WorkingMemory) (name : String) (stuff : Stuff) :
    (memory.store name stuff).slots.get? name = some (stuff.rename name) :=
  OrderedMap.get?_insert_self _ _ _

/-- What has been stored as the latest result is found under its name. -/
theorem get_storeMain (memory : WorkingMemory) (name : String) (stuff : Stuff) :
    (memory.storeMain name stuff).get name = .ok (stuff.rename name) := by
  simp [get, find?, get?_store_self]

/-- A name under which something has been stored is no alias. -/
theorem aliases_storeMain (memory : WorkingMemory) (name : String) (stuff : Stuff) :
    (memory.storeMain name stuff).aliases.get? name = none := by
  unfold storeMain store
  dsimp only
  split
  · simp [OrderedMap.get?_erase]
  · next other => simp [OrderedMap.get?_insert, OrderedMap.get?_erase, other]

/-- To store a stuff once more where it is already changes nothing. -/
theorem store_storeMain (memory : WorkingMemory) (name : String) (stuff : Stuff) :
    (memory.storeMain name stuff).store name (stuff.rename name) =
      memory.storeMain name stuff := by
  have there : (memory.storeMain name stuff).slots.get? name = some (stuff.rename name) := by
    rw [storeMain_slots, get?_store_self]
  rw [store, OrderedMap.erase_of_get? (aliases_storeMain memory name stuff)]
  rw [show (stuff.rename name).rename name = stuff.rename name from rfl,
    OrderedMap.insert_of_get? there]

/-- The main name leads there already, too. -/
theorem storeMain_storeMain (memory : WorkingMemory) (name : String) (stuff : Stuff) :
    (memory.storeMain name stuff).storeMain name (stuff.rename name) =
      memory.storeMain name stuff := by
  rw [storeMain, store_storeMain]
  by_cases main : name = mainName
  · simp only [if_pos main]
  · have leads : (memory.storeMain name stuff).aliases.get? mainName = some name := by
      simp [storeMain, main]
    simp only [if_neg main, OrderedMap.insert_of_get? leads]

theorem mem_store {entry : String × Stuff}
    (h : entry ∈ (memory.store name stuff).slots.entries) :
    entry = (name, stuff.rename name) ∨ entry ∈ memory.slots.entries :=
  OrderedMap.mem_assign h

/-- A name leads to the stuff of some slot. -/
theorem mem_of_find? (h : memory.find? name = some stuff) :
    ∃ slot, (slot, stuff) ∈ memory.slots.entries := by
  rw [find?] at h
  split at h
  · next found =>
    cases h
    exact ⟨name, OrderedMap.mem_entries_of_get? found⟩
  · obtain ⟨slot, _, found⟩ := Option.bind_eq_some_iff.1 h
    exact ⟨slot, OrderedMap.mem_entries_of_get? found⟩

theorem get_eq_ok : memory.get name = .ok stuff ↔ memory.find? name = some stuff := by
  rw [get]
  cases memory.find? name <;> simp

theorem getList_eq_ok {items : List Content} :
    memory.getList name = .ok (stuff, items) ↔
      memory.find? name = some stuff ∧ stuff.content = .list items := by
  rw [getList, ← get_eq_ok]
  cases memory.get name with
  | error error => simp [bind, Except.bind]
  | ok there =>
    have same : there = stuff ∧ there.content = .list items ↔
        (Except.ok there : Except MemoryError Stuff) = .ok stuff ∧
          stuff.content = .list items := by
      rw [Except.ok.injEq]
      exact and_congr_right fun h => by rw [h]
    rw [← same]
    simp only [bind, Except.bind]
    cases there.content <;>
      simp [Content.items?, pure, Except.pure, throw, throwThe, MonadExceptOf.throw]

theorem Every.store {property : Stuff → Prop} (h : memory.Every property)
    (has : property (stuff.rename name)) : (memory.store name stuff).Every property := by
  intro entry member
  rcases mem_store member with rfl | member
  · exact has
  · exact h entry member

theorem Every.storeMain {property : Stuff → Prop} (h : memory.Every property)
    (has : property (stuff.rename name)) : (memory.storeMain name stuff).Every property := by
  rw [WorkingMemory.Every]
  rw [storeMain_slots]
  exact h.store has

theorem Every.of_find? {property : Stuff → Prop} (h : memory.Every property)
    (found : memory.find? name = some stuff) : property stuff := by
  obtain ⟨slot, member⟩ := mem_of_find? found
  exact h (slot, stuff) member

end WorkingMemory

end Conduit
