import Conduit.Proofs.Keyed
import Conduit.Proofs.Memory.Frame
import Conduit.Proofs.Memory.View

/-!
# Memories in another order

Slots and aliases keep the order in which they have arrived. Nobody is shown that order: names are
looked up, and what templates and expressions see is sorted. So two memories that hold the same in
another order cannot be told apart, and to store a stuff in both leaves them so.

Writes to different names commute up to this order. The results of branches are such writes.
-/

namespace Conduit

namespace Json

variable {key key' : String} {value value' : Json} {fields fields' : List (String × Json)}

/-- Fields of different keys may be written in any order. -/
theorem insertField_comm (apart : key ≠ key') (fields : List (String × Json)) :
    insertField key value (insertField key' value' fields) =
      insertField key' value' (insertField key value fields) := by
  -- Either key comes before the first field, takes its place, or is passed on.
  induction fields with
  | nil => grind [insertField]
  | cons field fields ih => grind [insertField]

theorem ofFields_eq_of_perm (distinct : (fields.map Prod.fst).Nodup)
    (perm : fields.Perm fields') : ofFields fields' = ofFields fields := by
  refine congrArg object (foldl_key_perm distinct perm ?_ [])
  exact fun field other apart sorted => insertField_comm (Ne.symm apart) sorted

end Json

namespace WorkingMemory

variable {memory memory' other : WorkingMemory}

/-- The same stuffs in the slots and the same aliases, in whatever order. -/
structure Reordered (memory other : WorkingMemory) : Prop where
  slots : memory.slots.entries.Perm other.slots.entries
  aliases : memory.aliases.entries.Perm other.aliases.entries

theorem reordered_iff : memory.Reordered other ↔
    (∀ name, other.slots.get? name = memory.slots.get? name) ∧
      ∀ name, other.aliases.get? name = memory.aliases.get? name := by
  rw [← OrderedMap.perm_iff, ← OrderedMap.perm_iff]
  exact ⟨fun ⟨slots, aliases⟩ => ⟨slots, aliases⟩, fun ⟨slots, aliases⟩ => ⟨slots, aliases⟩⟩

namespace Reordered

theorem refl (memory : WorkingMemory) : memory.Reordered memory :=
  ⟨.refl _, .refl _⟩

theorem trans (h : memory.Reordered memory') (h' : memory'.Reordered other) :
    memory.Reordered other :=
  ⟨h.slots.trans h'.slots, h.aliases.trans h'.aliases⟩

/-- Every name leads to the same stuff. -/
theorem find?_eq (h : memory.Reordered other) (name : String) :
    other.find? name = memory.find? name := by
  obtain ⟨slots, aliases⟩ := reordered_iff.1 h
  rw [find?, find?, slots, aliases, funext slots]

theorem store (h : memory.Reordered other) (name : String) (stuff : Stuff) :
    (memory.store name stuff).Reordered (other.store name stuff) := by
  obtain ⟨slots, aliases⟩ := reordered_iff.1 h
  refine reordered_iff.2 ⟨fun other => ?_, fun other => ?_⟩
  · simp only [WorkingMemory.store, OrderedMap.get?_insert, slots]
  · simp only [WorkingMemory.store, OrderedMap.get?_erase, aliases]

theorem storeMain (h : memory.Reordered other) (name : String) (stuff : Stuff) :
    (memory.storeMain name stuff).Reordered (other.storeMain name stuff) := by
  have stored := h.store name stuff
  by_cases main : name = mainName
  · simpa only [WorkingMemory.storeMain, if_pos main] using stored
  · obtain ⟨slots, aliases⟩ := reordered_iff.1 stored
    simp only [WorkingMemory.storeMain, if_neg main]
    refine reordered_iff.2 ⟨slots, fun other => ?_⟩
    simp only [OrderedMap.get?_insert, aliases]

/-- A comparison of the two memories comes out as that of one of them with itself. -/
theorem beq_eq (h : memory.Reordered other) : (memory == other) = (memory == memory) := by
  change (memory.slots == other.slots && memory.aliases == other.aliases) =
    (memory.slots == memory.slots && memory.aliases == memory.aliases)
  rw [OrderedMap.beq_of_perm h.slots, OrderedMap.beq_of_perm h.aliases]

end Reordered

/-- The fields of aliases of different names may be written in any order. -/
theorem showAlias_comm {entry entry' : String × String} (apart : entry.1 ≠ entry'.1)
    (memory : WorkingMemory) (fields : List (String × Json)) :
    memory.showAlias (memory.showAlias fields entry) entry' =
      memory.showAlias (memory.showAlias fields entry') entry := by
  cases found : memory.slots.get? entry.2 with
  | none => simp only [showAlias, found]
  | some stuff =>
      cases found' : memory.slots.get? entry'.2 with
      | none => simp only [showAlias, found, found']
      | some stuff' =>
          -- To write the field of one alias does not take the name of the other one.
          have comm : Json.insertField entry'.1 stuff'.content.view
              (Json.insertField entry.1 stuff.content.view fields) =
              Json.insertField entry.1 stuff.content.view
                (Json.insertField entry'.1 stuff'.content.view fields) :=
            Json.insertField_comm (Ne.symm apart) fields
          cases taken : (fields.lookup entry.1).isSome <;>
            cases taken' : (fields.lookup entry'.1).isSome <;>
            simp [showAlias, found, found', taken, taken', Json.lookup_insertField, apart,
              Ne.symm apart, comm]

/-- Templates and expressions see no difference. -/
theorem Reordered.view_eq (h : memory.Reordered other) : other.view = memory.view := by
  obtain ⟨slots, -⟩ := reordered_iff.1 h
  have slotViews : other.slotViews = memory.slotViews :=
    foldl_key_perm memory.slots.distinct h.slots
      (fun entry entry' apart fields => Json.insertField_comm (Ne.symm apart) fields) []
  have shows : other.showAlias = memory.showAlias := by
    funext fields entry
    rw [showAlias, showAlias, slots]
  rw [WorkingMemory.view_eq, WorkingMemory.view_eq, slotViews, shows]
  exact congrArg Json.object (foldl_key_perm memory.aliases.distinct h.aliases
    (fun entry entry' apart fields => memory.showAlias_comm apart fields) _)

/-- Stuffs of different names may be stored in any order. -/
theorem store_comm {name name' : String} (apart : name ≠ name') (memory : WorkingMemory)
    (stuff stuff' : Stuff) : ((memory.store name stuff).store name' stuff').Reordered
      ((memory.store name' stuff').store name stuff) := by
  refine reordered_iff.2 ⟨fun other => ?_, fun other => ?_⟩
  · simp only [store, OrderedMap.get?_insert]
    grind
  · simp only [store, OrderedMap.get?_erase]
    grind

theorem Reordered.keepResults (h : memory.Reordered other) (results : List (String × Stuff)) :
    (Library.keepResults memory results).Reordered (Library.keepResults other results) := by
  induction results generalizing memory other with
  | nil => exact h
  | cons result results ih => exact ih (h.store result.1 result.2)

/-- The results of branches with distinct names may be kept in any order. -/
theorem keepResults_perm {results results' : List (String × Stuff)}
    (distinct : (results.map Prod.fst).Nodup) (perm : results.Perm results') :
    (Library.keepResults memory results).Reordered (Library.keepResults memory results') := by
  induction perm generalizing memory with
  | nil => exact .refl memory
  | cons result _ ih =>
      rw [List.map_cons, List.nodup_cons] at distinct
      exact ih distinct.2
  | swap result result' results =>
      have apart : result'.1 ≠ result.1 := by
        rintro same
        simp [same] at distinct
      exact (store_comm apart memory result'.2 result.2).keepResults results
  | trans perm _ ih ih' =>
      have distinct' := (perm.map Prod.fst).nodup_iff.1 distinct
      exact (ih distinct).trans (ih' distinct')

end WorkingMemory

end Conduit
