/-!
# Maps in order of arrival

An `OrderedMap` keeps its keys in the order in which they first arrived. Writing
to a key that is present changes the value and moves nothing; a removed key
leaves the others in order. Working memories, declared inputs, record fields and
bundles all show this order.
-/

namespace Conduit

/-- A finite map from names, in order of first arrival. -/
structure OrderedMap (α : Type) where
  /-- The pairs, oldest key first. -/
  entries : List (String × α)
  /-- No key occurs twice. -/
  distinct : (entries.map Prod.fst).Nodup

namespace OrderedMap

variable {α : Type}

/-- Write a value in place, or at the end when the key is new. -/
def assign (key : String) (value : α) : List (String × α) → List (String × α)
  | [] => [(key, value)]
  | (k, v) :: rest => if k = key then (k, value) :: rest else (k, v) :: assign key value rest

theorem mem_keys_assign {key : String} {value : α} {entries : List (String × α)} {k : String} :
    k ∈ (assign key value entries).map Prod.fst ↔ k = key ∨ k ∈ entries.map Prod.fst := by
  induction entries with
  | nil => simp [assign]
  | cons entry rest ih =>
    obtain ⟨k', v'⟩ := entry
    by_cases h : k' = key
    · subst h; simp [assign]
    · simp only [assign, if_neg h, List.map_cons, List.mem_cons, ih]
      constructor <;> rintro (h | h | h) <;> simp [h]

theorem mem_assign {key : String} {value : α} {entries : List (String × α)} {entry : String × α}
    (h : entry ∈ assign key value entries) : entry = (key, value) ∨ entry ∈ entries := by
  induction entries with
  | nil => simpa [assign] using h
  | cons first rest ih =>
    obtain ⟨k, v⟩ := first
    by_cases hk : k = key
    · simp only [assign, if_pos hk, List.mem_cons] at h
      rcases h with rfl | h
      · exact .inl (by rw [hk])
      · exact .inr (List.mem_cons_of_mem _ h)
    · simp only [assign, if_neg hk, List.mem_cons] at h
      rcases h with rfl | h
      · exact .inr List.mem_cons_self
      · exact (ih h).imp_right (List.mem_cons_of_mem _)

theorem nodup_keys_assign (key : String) (value : α) {entries : List (String × α)}
    (h : (entries.map Prod.fst).Nodup) : ((assign key value entries).map Prod.fst).Nodup := by
  induction entries with
  | nil => simp [assign]
  | cons entry rest ih =>
    obtain ⟨k', v'⟩ := entry
    simp only [List.map_cons, List.nodup_cons] at h
    by_cases hk : k' = key
    · simp only [assign, if_pos hk, List.map_cons, List.nodup_cons]
      exact ⟨hk ▸ h.1, h.2⟩
    · simp only [assign, if_neg hk, List.map_cons, List.nodup_cons]
      refine ⟨fun hm => ?_, ih h.2⟩
      rcases mem_keys_assign.1 hm with hm | hm
      · exact hk hm
      · exact h.1 hm

/-- The map with no keys. -/
def empty : OrderedMap α := ⟨[], by simp⟩

instance : EmptyCollection (OrderedMap α) := ⟨empty⟩

instance : Inhabited (OrderedMap α) := ⟨empty⟩

/-- Write a value under a key. -/
def insert (map : OrderedMap α) (key : String) (value : α) : OrderedMap α :=
  ⟨assign key value map.entries, nodup_keys_assign key value map.distinct⟩

/-- Remove the keys whose entry fails the test. -/
def filter (keep : String → α → Bool) (map : OrderedMap α) : OrderedMap α :=
  ⟨map.entries.filter fun entry => keep entry.1 entry.2,
    map.distinct.sublist (List.filter_sublist.map Prod.fst)⟩

/-- Remove a key; the others keep their order. -/
def erase (map : OrderedMap α) (key : String) : OrderedMap α :=
  map.filter fun k _ => k ≠ key

/-- The value under a key. -/
def get? (map : OrderedMap α) (key : String) : Option α :=
  map.entries.lookup key

/-- Is there a value under the key? -/
def contains (map : OrderedMap α) (key : String) : Bool :=
  (map.get? key).isSome

/-- The keys, oldest first. -/
def keys (map : OrderedMap α) : List String :=
  map.entries.map Prod.fst

/-- The values, in the order of their keys. -/
def values (map : OrderedMap α) : List α :=
  map.entries.map Prod.snd

/-- The number of keys. -/
def size (map : OrderedMap α) : Nat :=
  map.entries.length

/-- Is the map without keys? -/
def isEmpty (map : OrderedMap α) : Bool :=
  map.entries.isEmpty

/-- Write the pairs one after the other: the last value of a key stands at its first place. -/
def ofList (entries : List (String × α)) : OrderedMap α :=
  entries.foldl (fun map entry => map.insert entry.1 entry.2) empty

/-- The only entry of a map with one key. -/
def sole? (map : OrderedMap α) : Option (String × α) :=
  match map.entries with
  | [entry] => some entry
  | _ => none

/-- Do two maps hold equal values under the same keys, in whatever order? -/
def sameEntries [BEq α] (left right : OrderedMap α) : Bool :=
  left.size == right.size &&
    left.entries.all fun entry => (right.get? entry.1).any (entry.2 == ·)

instance [BEq α] : BEq (OrderedMap α) := ⟨sameEntries⟩

theorem lookup_cons_eq_ite (entry : String × α) (entries : List (String × α)) (k : String) :
    (entry :: entries).lookup k = if k = entry.1 then some entry.2 else entries.lookup k := by
  obtain ⟨k', v'⟩ := entry
  rw [List.lookup_cons]
  by_cases h : k = k'
  · simp [h]
  · rw [beq_eq_false_iff_ne.2 h]; simp [h]

theorem lookup_assign (key : String) (value : α) (entries : List (String × α)) (k : String) :
    (assign key value entries).lookup k = if k = key then some value else entries.lookup k := by
  induction entries with
  | nil => simp [assign, lookup_cons_eq_ite]
  | cons entry rest ih =>
    obtain ⟨k', v'⟩ := entry
    by_cases hk : k' = key
    · subst hk
      by_cases h : k = k' <;> simp [assign, lookup_cons_eq_ite, h]
    · by_cases h : k = k'
      · simp [assign, hk, h]
      · simp [assign, hk, lookup_cons_eq_ite, h, ih]

theorem get?_insert (map : OrderedMap α) (key : String) (value : α) (k : String) :
    (map.insert key value).get? k = if k = key then some value else map.get? k :=
  lookup_assign key value map.entries k

@[simp] theorem get?_insert_self (map : OrderedMap α) (key : String) (value : α) :
    (map.insert key value).get? key = some value := by
  simp [get?_insert]

theorem get?_erase (map : OrderedMap α) (key k : String) :
    (map.erase key).get? k = if k = key then none else map.get? k := by
  unfold erase filter get?
  dsimp only
  induction map.entries with
  | nil => simp
  | cons entry rest ih =>
    by_cases hk : entry.1 = key
    · rw [List.filter_cons_of_neg (by simpa using hk), ih]
      by_cases h : k = key
      · simp [h]
      · simp [h, lookup_cons_eq_ite, hk]
    · rw [List.filter_cons_of_pos (by simpa using hk), lookup_cons_eq_ite, lookup_cons_eq_ite, ih]
      by_cases h : k = entry.1
      · simp [h, hk]
      · simp [h]

theorem contains_insert (map : OrderedMap α) (key : String) (value : α) (k : String) :
    (map.insert key value).contains k = true ↔ k = key ∨ map.contains k = true := by
  rw [contains, contains, get?_insert]
  split <;> simp [*]

theorem contains_erase (map : OrderedMap α) (key k : String) :
    (map.erase key).contains k = true ↔ k ≠ key ∧ map.contains k = true := by
  rw [contains, contains, get?_erase]
  split <;> simp [*]

theorem lookup_eq_none {entries : List (String × α)} {key : String}
    (absent : key ∉ entries.map Prod.fst) : entries.lookup key = none := by
  rw [List.lookup_eq_none_iff]
  intro entry member
  rw [bne_iff_ne]
  rintro rfl
  exact absent (List.mem_map_of_mem member)

theorem assign_of_lookup {key : String} {value : α} {entries : List (String × α)}
    (h : entries.lookup key = some value) : assign key value entries = entries := by
  induction entries with
  | nil => simp at h
  | cons entry rest ih =>
    obtain ⟨k, v⟩ := entry
    rw [lookup_cons_eq_ite] at h
    by_cases hk : k = key
    · rw [if_pos hk.symm] at h
      cases h
      rw [assign, if_pos hk]
    · rw [if_neg fun same => hk same.symm] at h
      rw [assign, if_neg hk, ih h]

/-- To write what is there already changes nothing. -/
theorem insert_of_get? {map : OrderedMap α} {key : String} {value : α}
    (h : map.get? key = some value) : map.insert key value = map := by
  obtain ⟨entries, distinct⟩ := map
  simp only [insert, mk.injEq]
  exact assign_of_lookup h

/-- To remove a key that is not there changes nothing. -/
theorem erase_of_get? {map : OrderedMap α} {key : String} (h : map.get? key = none) :
    map.erase key = map := by
  obtain ⟨entries, distinct⟩ := map
  simp only [erase, filter, mk.injEq, List.filter_eq_self]
  intro entry member
  have other : key ≠ entry.1 := by simpa using List.lookup_eq_none_iff.1 h entry member
  simpa using other.symm

theorem mem_entries_of_get? {map : OrderedMap α} {key : String} {value : α}
    (h : map.get? key = some value) : (key, value) ∈ map.entries := by
  unfold get? at h
  generalize map.entries = entries at h
  induction entries with
  | nil => simp at h
  | cons entry rest ih =>
    rw [lookup_cons_eq_ite] at h
    split at h
    · next same =>
      cases h
      rw [same]
      exact List.mem_cons_self
    · exact List.mem_cons_of_mem _ (ih h)

theorem mem_keys_of_get? {map : OrderedMap α} {key : String} {value : α}
    (h : map.get? key = some value) : key ∈ map.keys :=
  List.mem_map_of_mem (mem_entries_of_get? h)

end OrderedMap

end Conduit
