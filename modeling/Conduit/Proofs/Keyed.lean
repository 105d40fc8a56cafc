import Mathlib.Data.List.Forall2
import Mathlib.Data.List.Nodup
import Mathlib.Data.List.Perm.Basic
import Conduit.OrderedMap

/-!
# Look-ups and order

Pipes are looked up by their codes, concepts by their full names, and all else by the keys of maps.
Where no two of them share a key, the look-up finds whatever has the key, and the order in which
they have arrived makes no difference.
-/

namespace Conduit

section Items

variable {α : Type} {key : α → String} {items items' : List α} {item : α} {name : String}

/-- An item may be added behind the others if its key is new. -/
theorem nodup_map_append : ((items ++ [item]).map key).Nodup ↔
    (items.map key).Nodup ∧ ∀ other ∈ items, key other ≠ key item := by
  simp [List.nodup_append]

/-- Where no two items share a key, an item is found under its key. -/
theorem find?_key_eq_some (distinct : (items.map key).Nodup) :
    (items.find? fun item => key item == name) = some item ↔ item ∈ items ∧ key item = name := by
  constructor
  · intro found
    exact ⟨List.mem_of_find?_eq_some found, by simpa using List.find?_some found⟩
  · rintro ⟨member, rfl⟩
    cases found : items.find? fun other => key other == key item with
    | none =>
        rw [List.find?_eq_none] at found
        exact absurd (beq_self_eq_true (key item)) (found item member)
    | some other =>
        have same : key other = key item := by simpa using List.find?_some found
        have among := List.mem_of_find?_eq_some found
        rw [List.inj_on_of_nodup_map distinct among member same]

theorem find?_key_perm (distinct : (items.map key).Nodup) (perm : items.Perm items') :
    (items'.find? fun item => key item == name) = items.find? fun item => key item == name := by
  have distinct' : (items'.map key).Nodup := (perm.map key).nodup_iff.1 distinct
  apply Option.ext
  intro item
  rw [find?_key_eq_some distinct, find?_key_eq_some distinct', perm.mem_iff]

/-- Items of distinct keys may come in any order, also behind others. -/
theorem find?_append_key_perm {before : List α} (distinct : (items.map key).Nodup)
    (perm : items.Perm items') :
    ((before ++ items').find? fun item => key item == name) =
      (before ++ items).find? fun item => key item == name := by
  rw [List.find?_append, List.find?_append, find?_key_perm distinct perm]

/-- What is written under distinct keys may be written in any order, if what has been written under
one key does not touch what is written under another. -/
theorem foldl_key_perm {β : Type} {write : β → α → β} (distinct : (items.map key).Nodup)
    (perm : items.Perm items') (commutes : ∀ item other, key item ≠ key other → ∀ start,
      write (write start item) other = write (write start other) item) (start : β) :
    items'.foldl write start = items.foldl write start := by
  refine (perm.foldl_eq' ?_ start).symm
  intro item member other member' start
  by_cases same : key item = key other
  · rw [List.inj_on_of_nodup_map distinct member member' same]
  · exact commutes item other same start

theorem exists_left_of_forall₂ {α β : Type} {R : α → β → Prop} {as : List α} {bs : List β}
    (h : List.Forall₂ R as bs) {b : β} (member : b ∈ bs) : ∃ a ∈ as, R a b := by
  induction h with
  | nil => cases member
  | cons related _ ih =>
      rcases List.mem_cons.1 member with rfl | member
      · exact ⟨_, List.mem_cons_self, related⟩
      · obtain ⟨a, mem, related⟩ := ih member
        exact ⟨a, List.mem_cons_of_mem _ mem, related⟩

theorem forall₂_congr_of_mem {β : Type} {related related' : β → α → Prop} {entries : List β}
    (same : ∀ entry ∈ entries, ∀ item, related entry item ↔ related' entry item) :
    List.Forall₂ related entries items ↔ List.Forall₂ related' entries items := by
  induction entries generalizing items with
  | nil => simp
  | cons entry entries ih =>
      cases items with
      | nil => simp
      | cons item items =>
          rw [List.forall₂_cons, List.forall₂_cons, same entry List.mem_cons_self,
            ih fun other member => same other (List.mem_cons_of_mem _ member)]

/-- Items that have the keys which distinct entries give them have distinct keys. -/
theorem nodup_map_of_forall₂ {β : Type} {related : β → α → Prop} {given : β → String}
    {entries : List β} (distinct : (entries.map given).Nodup)
    (each : List.Forall₂ related entries items)
    (keeps : ∀ entry item, related entry item → key item = given entry) :
    (items.map key).Nodup := by
  have same : entries.map given = items.map key := by
    rw [← List.forall₂_eq_eq_eq, List.forall₂_map_left_iff, List.forall₂_map_right_iff]
    exact each.imp fun entry item holds => (keeps entry item holds).symm
  rwa [← same]

end Items

namespace OrderedMap

variable {α : Type} {map other : OrderedMap α} {key : String} {value : α}

theorem get?_eq_some : map.get? key = some value ↔ (key, value) ∈ map.entries := by
  obtain ⟨entries, distinct⟩ := map
  simp only [get?]
  induction entries with
  | nil => simp
  | cons entry entries ih =>
      obtain ⟨key', value'⟩ := entry
      rw [List.map_cons, List.nodup_cons] at distinct
      rw [lookup_cons_eq_ite, List.mem_cons, Prod.mk.injEq]
      by_cases here : key = key'
      · subst here
        have apart : (key, value) ∉ entries := fun member =>
          distinct.1 (List.mem_map.2 ⟨_, member, rfl⟩)
        simp [apart, eq_comm]
      · simp [here, ih distinct.2]

theorem contains_eq_true : map.contains key = true ↔ ∃ value, (key, value) ∈ map.entries := by
  rw [contains, Option.isSome_iff_exists]
  exact exists_congr fun _ => get?_eq_some

/-- Two maps have the same entries, in whatever order, exactly if all look-ups find the same. -/
theorem perm_iff : map.entries.Perm other.entries ↔ ∀ key, other.get? key = map.get? key := by
  have once : map.entries.Nodup := map.distinct.of_map _
  have once' : other.entries.Nodup := other.distinct.of_map _
  rw [List.perm_ext_iff_of_nodup once once']
  constructor
  · intro same key
    apply Option.ext
    intro value
    rw [get?_eq_some, get?_eq_some, same]
  · rintro same ⟨key, value⟩
    rw [← get?_eq_some, ← get?_eq_some, same]

/-- A map and another one with the same entries compare as the map does with itself. -/
theorem beq_of_perm [BEq α] (perm : map.entries.Perm other.entries) :
    (map == other) = (map == map) := by
  have size : other.size = map.size := perm.length_eq.symm
  have found : other.get? = map.get? := funext (perm_iff.1 perm)
  change map.sameEntries other = map.sameEntries map
  rw [sameEntries, sameEntries, size, found]

end OrderedMap

end Conduit
