import Conduit.Proofs.Run.Likeness

/-!
# Outlines of memories

The outline of a memory is what a run on it looks like from outside: the names of the slots in
order, each with the concept of its stuff, and the aliases. Contents do not belong to it.

Two memories may have the same outline while the lists in one are longer than those in the
other. A run of one memory tells about the other as long as none of its lists is empty, for then
whatever is run for the items of a list has been run at least once.
-/

namespace Conduit

namespace OrderedMap

variable {α β : Type} {R : α → β → Prop} {map : OrderedMap α} {map' : OrderedMap β}

/-- Two maps have the same keys in the same order, with related values. -/
def Alike (R : α → β → Prop) (map : OrderedMap α) (map' : OrderedMap β) : Prop :=
  List.Forall₂ (fun entry entry' => entry'.1 = entry.1 ∧ R entry.2 entry'.2)
    map.entries map'.entries

theorem Alike.insert (h : map.Alike R map') (key : String) {value : α} {value' : β}
    (related : R value value') : (map.insert key value).Alike R (map'.insert key value') := by
  unfold Alike OrderedMap.insert at *
  dsimp only
  generalize map.entries = entries, map'.entries = entries' at h
  induction h with
  | nil => exact .cons ⟨rfl, related⟩ .nil
  | @cons entry entry' _ _ one rest ih =>
      obtain ⟨k, v⟩ := entry
      obtain ⟨k', v'⟩ := entry'
      obtain rfl : k' = k := one.1
      by_cases same : k' = key
      · rw [assign, assign, if_pos same, if_pos same]
        exact .cons ⟨rfl, related⟩ rest
      · rw [assign, assign, if_neg same, if_neg same]
        exact .cons one ih

theorem Alike.get? (h : map.Alike R map') (key : String) :
    Option.Rel R (map.get? key) (map'.get? key) := by
  rw [Alike] at h
  simp only [OrderedMap.get?]
  generalize map.entries = entries, map'.entries = entries' at h
  induction h with
  | nil => exact .none
  | cons one _ ih =>
      rw [lookup_cons_eq_ite, lookup_cons_eq_ite, one.1]
      split
      · exact .some one.2
      · exact ih

theorem Alike.exists_get? (h : map.Alike R map') {key : String} {value : α}
    (found : map.get? key = some value) :
    ∃ value', map'.get? key = some value' ∧ R value value' := by
  have related := h.get? key
  rw [found] at related
  cases known : map'.get? key with
  | none =>
      rw [known] at related
      cases related
  | some value' =>
      rw [known] at related
      cases related with
      | some related => exact ⟨value', rfl, related⟩

theorem Alike.get?_eq_none (h : map.Alike R map') {key : String} (absent : map.get? key = none) :
    map'.get? key = none := by
  have related := h.get? key
  rw [absent] at related
  cases known : map'.get? key with
  | none => rfl
  | some value' =>
      rw [known] at related
      cases related

end OrderedMap

/-- No list in the content is empty. -/
inductive Content.Solid : Content → Prop
  | single {content : Content} (h : content.isList = false) : Solid content
  | list {items : List Content} (nonempty : items ≠ []) (each : ∀ item ∈ items, Solid item) :
      Solid (.list items)

theorem Content.Solid.items {items : List Content} (h : (Content.list items).Solid) :
    items ≠ [] ∧ ∀ item ∈ items, item.Solid := by
  cases h with
  | single h => cases h
  | list nonempty each => exact ⟨nonempty, each⟩

namespace Stuff

/-- No list in the content of the stuff is empty. -/
def Solid (stuff : Stuff) : Prop :=
  stuff.content.Solid

/-- Two stuffs have the same name and concept, and the first is solid. -/
structure Outlines (stuff stuff' : Stuff) : Prop where
  name : stuff'.name = stuff.name
  concept : stuff'.concept = stuff.concept
  solid : stuff.Solid

theorem Outlines.rename {stuff stuff' : Stuff} (h : stuff.Outlines stuff') (name : String) :
    (stuff.rename name).Outlines (stuff'.rename name) :=
  ⟨rfl, h.concept, h.solid⟩

/-- Whether a record may stand for a concept is a matter of its class. -/
theorem make_structured {name className : String} {concept : Concept} {value : Json} {stuff : Stuff}
    (h : make name concept (.structured className value) = .ok stuff) (value' : Json) :
    ∃ stuff', make name concept (.structured className value') = .ok stuff' ∧
      stuff.Outlines stuff' := by
  obtain ⟨fit, rfl⟩ := make_eq_ok.1 h
  have fit' : misfit? concept (.structured className value') = none := by
    rw [misfit?] at fit ⊢
    split
    · rfl
    · next closed =>
      rw [if_neg closed] at fit
      dsimp only [Content.items?] at fit ⊢
      split at fit
      · next fits => exact if_pos fits
      · cases fit
  exact ⟨_, make_eq_ok.2 ⟨fit', rfl⟩, rfl, rfl, .single rfl⟩

end Stuff

namespace WorkingMemory

/-- The names of the slots in order, each with the concept of its stuff. -/
def outline (memory : WorkingMemory) : List (String × Concept) :=
  memory.slots.entries.map fun entry => (entry.1, entry.2.concept)

/-- Two memories have stuffs of the same names and concepts in the same slots, and the same
aliases, and the first is solid. -/
structure Outlines (memory memory' : WorkingMemory) : Prop where
  slots : memory.slots.Alike Stuff.Outlines memory'.slots
  aliases : memory'.aliases = memory.aliases

namespace Outlines

variable {memory memory' : WorkingMemory} {stuff stuff' : Stuff} {name : String}

theorem outline_eq (h : memory.Outlines memory') : memory'.outline = memory.outline := by
  have same := h.slots
  rw [OrderedMap.Alike] at same
  simp only [outline]
  generalize memory.slots.entries = entries, memory'.slots.entries = entries' at same
  induction same with
  | nil => rfl
  | cons one _ ih => rw [List.map_cons, List.map_cons, ih, one.1, one.2.concept]

theorem solid (h : memory.Outlines memory') : memory.Every Stuff.Solid := by
  intro entry member
  have same := h.slots
  rw [OrderedMap.Alike] at same
  generalize memory.slots.entries = entries, memory'.slots.entries = entries' at same member
  induction same with
  | nil => cases member
  | cons one _ ih =>
      rcases List.mem_cons.1 member with rfl | member
      · exact one.2.solid
      · exact ih member

theorem find (h : memory.Outlines memory') (found : memory.find? name = some stuff) :
    ∃ stuff', memory'.find? name = some stuff' ∧ stuff.Outlines stuff' := by
  rw [find?] at found ⊢
  rw [h.aliases]
  cases slot : memory.slots.get? name with
  | some here =>
      rw [slot] at found
      cases found
      obtain ⟨stuff', slot', outlines⟩ := h.slots.exists_get? slot
      rw [slot']
      exact ⟨stuff', rfl, outlines⟩
  | none =>
      rw [slot] at found
      rw [h.slots.get?_eq_none slot]
      obtain ⟨target, leads, there⟩ := Option.bind_eq_some_iff.1 found
      obtain ⟨stuff', there', outlines⟩ := h.slots.exists_get? there
      exact ⟨stuff', Option.bind_eq_some_iff.2 ⟨target, leads, there'⟩, outlines⟩

theorem store (h : memory.Outlines memory') (name : String) (outlines : stuff.Outlines stuff') :
    (memory.store name stuff).Outlines (memory'.store name stuff') := by
  refine ⟨h.slots.insert name (outlines.rename name), ?_⟩
  simp only [WorkingMemory.store]
  rw [h.aliases]

theorem storeMain (h : memory.Outlines memory') (name : String) (outlines : stuff.Outlines stuff') :
    (memory.storeMain name stuff).Outlines (memory'.storeMain name stuff') := by
  have stored := h.store name outlines
  unfold WorkingMemory.storeMain
  dsimp only
  split
  · exact stored
  · exact ⟨stored.slots, by rw [stored.aliases]⟩

end Outlines

end WorkingMemory

/-- The likeness of memories with the same outline. -/
def Likeness.outline : Likeness where
  Memories := WorkingMemory.Outlines
  Stuffs := Stuff.Outlines
  name := Stuff.Outlines.name
  concept := Stuff.Outlines.concept
  rename name h := h.rename name
  find h found := h.find found
  store name h outlines := h.store name outlines
  storeMain name h outlines := h.storeMain name outlines
  record _ made := Stuff.make_structured made _

end Conduit
