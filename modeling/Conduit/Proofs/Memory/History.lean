import Conduit.Proofs.Memory.View

/-!
# Histories of memories

Whatever is written to a memory, and in whatever order, its two tables stay in step. An alias leads
to a slot that is there: writing never empties a slot, and emptying one drops the aliases that lead
to it. A stuff bears the name of its slot, for storing renames it.

So all ways of asking for a name give the same answer: whether it is contained, what stuff it leads
to, what the templates see under it, and whether it is missing.
-/

namespace Conduit

namespace WorkingMemory

/-- What may be done to a memory. -/
inductive Write where
  /-- Begin again with nothing but these stuffs. -/
  | anew (stuffs : List Stuff)
  | store (name : String) (stuff : Stuff)
  | storeMain (name : String) (stuff : Stuff)
  /-- Add an alias, which may fail. -/
  | addAlias (name target : String)
  | remove (name : String)

/-- The memory after a write. An alias that cannot be added changes nothing. -/
def write (memory : WorkingMemory) : Write → WorkingMemory
  | .anew stuffs => .ofStuffs stuffs
  | .store name stuff => memory.store name stuff
  | .storeMain name stuff => memory.storeMain name stuff
  | .addAlias name target =>
    match memory.addAlias name target with
    | .ok memory => memory
    | .error _ => memory
  | .remove name => memory.remove name

/-- The memory after writes in any order. -/
def after (writes : List Write) : WorkingMemory :=
  writes.foldl write empty

/-- The two tables of a memory are in step. -/
structure InStep (memory : WorkingMemory) : Prop where
  targets : ∀ entry ∈ memory.aliases.entries, memory.slots.contains entry.2 = true
  names : ∀ entry ∈ memory.slots.entries, entry.2.name = entry.1

variable {memory : WorkingMemory}

theorem contains_store {name slot : String} {stuff : Stuff} :
    (memory.store name stuff).slots.contains slot = true ↔
      slot = name ∨ memory.slots.contains slot = true :=
  OrderedMap.contains_insert _ _ _ _

/-- An alias is added if it is not the name of its target, and the target is there. -/
theorem write_addAlias (memory : WorkingMemory) (name target : String) :
    memory.write (.addAlias name target) =
      if name ≠ target ∧ memory.slots.contains target = true then
        { memory with aliases := memory.aliases.insert name target }
      else memory := by
  rw [write, addAlias]
  by_cases present : memory.slots.contains target = true <;> by_cases same : name = target <;>
    simp [present, same]

namespace InStep

theorem empty : InStep empty := by
  constructor <;> rintro _ ⟨⟩

/-- A slot that is there stays there, and so does what leads to it. -/
theorem store (inStep : memory.InStep) (name : String) (stuff : Stuff) :
    (memory.store name stuff).InStep := by
  constructor
  · intro entry member
    have old : entry ∈ memory.aliases.entries := (List.mem_filter.1 member).1
    exact contains_store.2 (.inr (inStep.targets entry old))
  · intro entry member
    rcases mem_store member with rfl | old
    · rfl
    · exact inStep.names entry old

theorem ofStuffs (stuffs : List Stuff) : (WorkingMemory.ofStuffs stuffs).InStep :=
  List.foldlRecOn stuffs _ InStep.empty fun _ inStep stuff _ => inStep.store stuff.name stuff

/-- An alias may be added that leads to a slot that is there. -/
theorem insertAlias (inStep : memory.InStep) (name : String) {target : String}
    (present : memory.slots.contains target = true) :
    InStep { memory with aliases := memory.aliases.insert name target } := by
  refine ⟨fun entry member => ?_, inStep.names⟩
  rcases OrderedMap.mem_assign member with rfl | old
  · exact present
  · exact inStep.targets entry old

theorem storeMain (inStep : memory.InStep) (name : String) (stuff : Stuff) :
    (memory.storeMain name stuff).InStep := by
  have stored := inStep.store name stuff
  rw [WorkingMemory.storeMain]
  split
  · exact stored
  · exact stored.insertAlias mainName (contains_store.2 (.inl rfl))

/-- What is left of the aliases leads to what is left of the slots. -/
theorem remove (inStep : memory.InStep) (name : String) : (memory.remove name).InStep := by
  rw [WorkingMemory.remove]
  split
  · constructor
    · intro entry member
      obtain ⟨old, kept⟩ := List.mem_filter.1 member
      have apart : entry.2 ≠ name := by simpa using kept
      dsimp only
      rw [OrderedMap.contains, OrderedMap.get?_erase, if_neg apart]
      exact inStep.targets entry old
    · intro entry member
      exact inStep.names entry (List.mem_filter.1 member).1
  · exact inStep

theorem write (inStep : memory.InStep) (next : Write) : (memory.write next).InStep := by
  cases next with
  | anew stuffs => exact ofStuffs stuffs
  | store name stuff => exact inStep.store name stuff
  | storeMain name stuff => exact inStep.storeMain name stuff
  | addAlias name target =>
      rw [write_addAlias]
      split
      · next makes => exact inStep.insertAlias name makes.2
      · exact inStep
  | remove name => exact inStep.remove name

theorem after (writes : List Write) : (WorkingMemory.after writes).InStep :=
  List.foldlRecOn writes WorkingMemory.write .empty fun _ inStep next _ => inStep.write next

end InStep

/-- The names that are missing are those of which the templates see nothing. -/
theorem mem_missing {names : List String} {name : String} :
    name ∈ memory.missing names ↔ name ∈ names ∧ memory.view.field? name = none := by
  rw [missing, Text.mem_sortedNames, List.mem_filter, field?_view, contains]
  simp

/-- After writes in any order every alias leads to a slot that is there, and every stuff bears the
name of its slot. A name is contained exactly if it leads to a stuff, and exactly if the templates
see it; then they see the view of that stuff. Those names are missing which they do not see. -/
theorem after_inStep (writes : List Write) :
    let memory := after writes
    (∀ entry ∈ memory.aliases.entries, memory.slots.contains entry.2 = true) ∧
    (∀ entry ∈ memory.slots.entries, entry.2.name = entry.1) ∧
    (∀ name,
      (memory.contains name = true ↔ ∃ stuff, memory.get name = .ok stuff) ∧
      (memory.contains name = true ↔ ∃ value, memory.view.field? name = some value) ∧
      ∀ stuff, memory.get name = .ok stuff →
        memory.view.field? name = some stuff.content.view) ∧
    ∀ names name, name ∈ memory.missing names ↔
      name ∈ names ∧ memory.view.field? name = none := by
  intro memory
  have inStep : memory.InStep := .after writes
  refine ⟨inStep.targets, inStep.names, fun name => ⟨?_, ?_, fun stuff found => ?_⟩,
    fun _ _ => mem_missing⟩
  · simp only [get_eq_ok, contains, Option.isSome_iff_exists]
  · rw [field?_view, ← Option.isSome_iff_exists, Option.isSome_map, contains]
  · rw [field?_view, get_eq_ok.1 found, Option.map_some]

end WorkingMemory

end Conduit
