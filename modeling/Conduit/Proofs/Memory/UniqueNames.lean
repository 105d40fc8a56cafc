import Mathlib.Data.List.Induction
import Conduit.Proofs.Keyed
import Conduit.Proofs.Memory.History

/-!
# Names with two meanings

A stuff that is stored under the name of an alias replaces it. But an alias that is added under the
name of a slot does not replace the slot, and neither does the main name. Such a name is that of a
slot and of an alias at the same time, and the slot hides the alias: whoever asks for the alias gets
the stuff in the slot, until the slot is emptied.

This is the only way in which a name comes to have two meanings. As long as no alias is made of the
name of a slot, an alias leads to what its target leads to, and the name of a slot that has been
emptied leads nowhere.
-/

namespace Conduit

namespace WorkingMemory

variable {memory : WorkingMemory} {next : Write}

/-- No name is that of a slot and of an alias. -/
def NamesUnique (memory : WorkingMemory) : Prop :=
  ∀ name, memory.slots.contains name = true → ¬ memory.aliases.contains name = true

/-- The write makes an alias of the name. -/
def MakesAlias (memory : WorkingMemory) : Write → String → Prop
  | .storeMain slot _, name => name = mainName ∧ slot ≠ mainName
  | .addAlias other target, name =>
    name = other ∧ other ≠ target ∧ memory.slots.contains target = true
  | _, _ => False

theorem contains_aliases_store {name other : String} {stuff : Stuff} :
    (memory.store name stuff).aliases.contains other = true ↔
      other ≠ name ∧ memory.aliases.contains other = true :=
  OrderedMap.contains_erase _ _ _

namespace NamesUnique

theorem empty : NamesUnique empty :=
  fun _ => nofun

/-- An alias of the name is gone. -/
theorem store (unique : memory.NamesUnique) (name : String) (stuff : Stuff) :
    (memory.store name stuff).NamesUnique := by
  intro slot present leads
  obtain ⟨apart, old⟩ := contains_aliases_store.1 leads
  exact unique slot ((contains_store.1 present).resolve_left apart) old

theorem ofStuffs (stuffs : List Stuff) : (WorkingMemory.ofStuffs stuffs).NamesUnique :=
  List.foldlRecOn stuffs _ empty fun _ unique stuff _ => unique.store stuff.name stuff

theorem remove (unique : memory.NamesUnique) (name : String) :
    (memory.remove name).NamesUnique := by
  rw [WorkingMemory.remove]
  split
  · intro slot present leads
    obtain ⟨target, member⟩ := OrderedMap.contains_eq_true.1 leads
    refine unique slot ((OrderedMap.contains_erase _ _ _).1 present).2 ?_
    exact OrderedMap.contains_eq_true.2 ⟨target, (List.mem_filter.1 member).1⟩
  · exact unique

/-- A further alias keeps names unique exactly if it does not have the name of a slot. -/
theorem insertAlias_iff (unique : memory.NamesUnique) {name target : String} :
    NamesUnique { memory with aliases := memory.aliases.insert name target } ↔
      ¬ memory.slots.contains name = true := by
  constructor
  · intro later slot
    exact later name slot ((OrderedMap.contains_insert _ _ _ _).2 (.inl rfl))
  · intro free slot present leads
    rcases (OrderedMap.contains_insert _ _ _ _).1 leads with rfl | old
    · exact free present
    · exact unique slot present old

theorem storeMain_iff (unique : memory.NamesUnique) {name : String} {stuff : Stuff} :
    (memory.storeMain name stuff).NamesUnique ↔
      (name ≠ mainName → ¬ memory.slots.contains mainName = true) := by
  have stored := unique.store name stuff
  rw [WorkingMemory.storeMain]
  split
  · next main => exact ⟨fun _ other => absurd main other, fun _ => stored⟩
  · next other =>
    rw [stored.insertAlias_iff, contains_store]
    constructor
    · intro free _ present
      exact free (.inr present)
    · rintro free (main | present)
      · exact other main.symm
      · exact free other present

theorem write_iff (unique : memory.NamesUnique) : (memory.write next).NamesUnique ↔
    ∀ name, memory.MakesAlias next name → ¬ memory.slots.contains name = true := by
  cases next with
  | anew stuffs => exact ⟨fun _ _ => nofun, fun _ => ofStuffs stuffs⟩
  | store name stuff => exact ⟨fun _ _ => nofun, fun _ => unique.store name stuff⟩
  | remove name => exact ⟨fun _ _ => nofun, fun _ => unique.remove name⟩
  | storeMain name stuff =>
      refine unique.storeMain_iff.trans ⟨?_, fun free other => free mainName ⟨rfl, other⟩⟩
      rintro free _ ⟨rfl, other⟩
      exact free other
  | addAlias name target =>
      rw [write_addAlias]
      split
      · next makes =>
        refine unique.insertAlias_iff.trans ⟨?_, fun free => free name ⟨rfl, makes⟩⟩
        rintro free _ ⟨rfl, -⟩
        exact free
      · next idle => exact ⟨fun _ _ makes => absurd makes.2 idle, fun _ => unique⟩

end NamesUnique

theorem after_concat (writes : List Write) (next : Write) :
    after (writes ++ [next]) = (after writes).write next := by
  rw [after, List.foldl_concat]
  rfl

/-- Names have been unique all along exactly if no alias was made of the name of a slot. -/
theorem namesUnique_iff (writes : List Write) :
    (∀ earlier, earlier <+: writes → (after earlier).NamesUnique) ↔
      ∀ earlier next, earlier ++ [next] <+: writes → ∀ name,
        (after earlier).MakesAlias next name → ¬ (after earlier).slots.contains name = true := by
  constructor
  · intro unique earlier next upTo
    have later := unique _ upTo
    rw [after_concat] at later
    exact (unique earlier ((List.prefix_append _ _).trans upTo)).write_iff.1 later
  · intro free earlier upTo
    induction earlier using List.reverseRecOn with
    | nil => exact .empty
    | append_singleton earlier next ih =>
        rw [after_concat]
        exact (ih ((List.prefix_append _ _).trans upTo)).write_iff.2 (free earlier next upTo)

/-- No alias leads to itself. -/
def NoLoops (memory : WorkingMemory) : Prop :=
  ∀ entry ∈ memory.aliases.entries, entry.1 ≠ entry.2

namespace NoLoops

theorem insertAlias (direct : memory.NoLoops) {name target : String} (apart : name ≠ target) :
    NoLoops { memory with aliases := memory.aliases.insert name target } := by
  intro entry member
  rcases OrderedMap.mem_assign member with rfl | old
  · exact apart
  · exact direct entry old

theorem store (direct : memory.NoLoops) (name : String) (stuff : Stuff) :
    (memory.store name stuff).NoLoops :=
  fun entry member => direct entry (List.mem_filter.1 member).1

theorem write (direct : memory.NoLoops) (next : Write) : (memory.write next).NoLoops := by
  cases next with
  | anew stuffs =>
      exact List.foldlRecOn stuffs _ (fun _ => nofun) fun _ direct stuff _ =>
        store direct stuff.name stuff
  | store name stuff => exact direct.store name stuff
  | storeMain name stuff =>
      rw [WorkingMemory.write, WorkingMemory.storeMain]
      split
      · exact direct.store name stuff
      · next other => exact (direct.store name stuff).insertAlias (Ne.symm other)
  | addAlias name target =>
      rw [write_addAlias]
      split
      · next makes => exact direct.insertAlias makes.1
      · exact direct
  | remove name =>
      rw [WorkingMemory.write, WorkingMemory.remove]
      split
      · exact fun entry member => direct entry (List.mem_filter.1 member).1
      · exact direct

theorem after (writes : List Write) : (WorkingMemory.after writes).NoLoops :=
  List.foldlRecOn writes WorkingMemory.write (fun _ => nofun) fun _ direct next _ =>
    direct.write next

end NoLoops

/-- The target of an alias that has been added leads to its slot. So does the alias, unless there is
a slot of its own name. -/
theorem get_addAlias {later : WorkingMemory} {name target : String}
    (added : memory.addAlias name target = .ok later) :
    ∃ stuff, memory.slots.get? target = some stuff ∧ later.get target = .ok stuff ∧
      later.get name = .ok ((memory.slots.get? name).getD stuff) := by
  rw [addAlias] at added
  split at added
  · cases added
  · next present =>
    have present : memory.slots.contains target = true := by simpa using present
    obtain ⟨stuff, there⟩ := Option.isSome_iff_exists.1 present
    refine ⟨stuff, there, ?_⟩
    split at added <;> cases added
    · next same =>
      subst same
      rw [get_eq_ok, get_eq_ok, find?, there]
      exact ⟨rfl, rfl⟩
    · rw [get_eq_ok, get_eq_ok, find?, find?, OrderedMap.get?_insert_self, there]
      cases memory.slots.get? name <;> simp [there]

/-- A name whose slot has been emptied leads somewhere exactly if it is that of an alias. -/
theorem contains_remove (inStep : memory.InStep) (direct : memory.NoLoops) {name : String}
    (present : memory.slots.contains name = true) :
    (memory.remove name).contains name = true ↔ memory.aliases.contains name = true := by
  have emptied : (memory.slots.erase name).get? name = none :=
    (OrderedMap.get?_erase _ _ _).trans (if_pos rfl)
  rw [remove, if_pos present, contains, find?, emptied, OrderedMap.contains_eq_true]
  dsimp only
  constructor
  · intro leads
    obtain ⟨stuff, leads⟩ := Option.isSome_iff_exists.1 leads
    obtain ⟨target, kept, -⟩ := Option.bind_eq_some_iff.1 leads
    exact ⟨target, (List.mem_filter.1 (OrderedMap.get?_eq_some.1 kept)).1⟩
  · rintro ⟨target, member⟩
    have apart : name ≠ target := direct _ member
    have kept : (memory.aliases.filter fun _ other => other ≠ name).get? name = some target :=
      OrderedMap.get?_eq_some.2 (List.mem_filter.2 ⟨member, by simpa using apart.symm⟩)
    rw [kept, Option.bind_some, OrderedMap.get?_erase, if_neg apart.symm]
    exact inStep.targets _ member

/-- Names have been unique all along exactly if no alias was made of the name of a slot.

Whatever was written, an alias that is added leads to what its target leads to, unless there is a
slot of its own name, and then it leads to that slot. A name whose slot is emptied leads nowhere,
unless it is also that of an alias, and then it leads on to the target. -/
theorem after_names (writes : List Write) :
    ((∀ earlier, earlier <+: writes → (after earlier).NamesUnique) ↔
      ∀ earlier next, earlier ++ [next] <+: writes → ∀ name,
        (after earlier).MakesAlias next name → ¬ (after earlier).slots.contains name = true) ∧
    (∀ name target later, (after writes).addAlias name target = .ok later →
      ∃ stuff, (after writes).slots.get? target = some stuff ∧ later.get target = .ok stuff ∧
        later.get name = .ok (((after writes).slots.get? name).getD stuff)) ∧
    ∀ name, (after writes).slots.contains name = true →
      (((after writes).remove name).contains name = true ↔
        (after writes).aliases.contains name = true) :=
  ⟨namesUnique_iff writes, fun _ _ _ added => get_addAlias added,
    fun _ present => contains_remove (.after writes) (.after writes) present⟩

/-- With a draft and a final version in the memory, an alias from the draft to the final version can
be added. But the draft is still there, and it is found under its name. Only when it is removed, the
alias is seen, and the name still leads to a stuff. -/
theorem draft_hides_alias :
    let draft : Stuff := ⟨"draft", .ofNative .text, .text "one"⟩
    let final : Stuff := ⟨"final", .ofNative .text, .text "two"⟩
    let memory := after [.anew [draft, final]]
    let later := after [.anew [draft, final], .addAlias "draft" "final"]
    memory.addAlias "draft" "final" = .ok later ∧ ¬ later.NamesUnique ∧
      later.get "draft" = .ok draft ∧ later.get "final" = .ok final ∧
      later.get "draft" ≠ later.get "final" ∧
      later.slots.contains "draft" = true ∧ (later.remove "draft").get "draft" = .ok final := by
  refine ⟨rfl, fun unique => unique "draft" rfl rfl, rfl, rfl, fun same => ?_, rfl, rfl⟩
  have names := congrArg Stuff.name (Except.ok.inj same)
  revert names
  decide

end WorkingMemory

end Conduit
