import Conduit.Proofs.Sample
import Conduit.Proofs.Memory.History
import Conduit.Proofs.Run.Agreement

/-!
# What a run finds stays

A run writes to a memory and takes nothing out of it. Every slot keeps its place, and new slots come
behind the old ones. A name that leads to a stuff goes on leading to one, though perhaps to another:
storing a stuff drops an alias of its name, but then there is a slot of that name.

The steps of a sequence hand their memories on. So each step finds the names that the steps before
it have found, and those that they have written.
-/

namespace Conduit

theorem OrderedMap.keys_prefix_insert {α : Type} (map : OrderedMap α) (key : String) (value : α) :
    map.keys <+: (map.insert key value).keys := by
  change map.entries.map Prod.fst <+: (assign key value map.entries).map Prod.fst
  induction map.entries with
  | nil => exact List.nil_prefix
  | cons entry entries ih =>
      rw [assign]
      split
      · exact List.prefix_refl _
      · exact (List.prefix_cons_inj entry.1).2 ih

namespace WorkingMemory

variable {memory middle later : WorkingMemory} {name slot : String} {stuff : Stuff}

/-- Every slot is where it was, and every name that led to a stuff still does. -/
structure Extends (memory later : WorkingMemory) : Prop where
  slots : memory.slots.keys <+: later.slots.keys
  names : ∀ name, memory.contains name = true → later.contains name = true

/-- A name leads to a stuff as a slot, or as an alias of a slot. -/
theorem contains_iff : memory.contains name = true ↔
    memory.slots.contains name = true ∨
      ∃ target, memory.aliases.get? name = some target ∧ memory.slots.contains target = true := by
  rw [contains, find?, OrderedMap.contains]
  cases memory.slots.get? name with
  | some stuff => simp
  | none =>
      cases memory.aliases.get? name with
      | none => simp
      | some target => simp [OrderedMap.contains]

theorem contains_of_find? (found : memory.find? name = some stuff) :
    memory.contains name = true := by
  rw [contains, found]
  rfl

namespace Extends

theorem refl (memory : WorkingMemory) : memory.Extends memory :=
  ⟨List.prefix_refl _, fun _ leads => leads⟩

theorem trans (h : memory.Extends middle) (h' : middle.Extends later) : memory.Extends later :=
  ⟨h.slots.trans h'.slots, fun name leads => h'.names name (h.names name leads)⟩

/-- The alias that is dropped has the name of a slot from now on. -/
theorem store (memory : WorkingMemory) (name : String) (stuff : Stuff) :
    memory.Extends (memory.store name stuff) := by
  refine ⟨OrderedMap.keys_prefix_insert _ _ _, fun other leads => ?_⟩
  rw [contains_iff] at leads ⊢
  by_cases same : other = name
  · exact .inl (contains_store.2 (.inl same))
  · rcases leads with slot | ⟨target, aliased, slot⟩
    · exact .inl (contains_store.2 (.inr slot))
    · refine .inr ⟨target, ?_, contains_store.2 (.inr slot)⟩
      rw [WorkingMemory.store, OrderedMap.get?_erase, if_neg same]
      exact aliased

/-- An alias may be added of a slot that is there. -/
theorem insertAlias (memory : WorkingMemory) (name : String)
    (present : memory.slots.contains slot = true) :
    memory.Extends { memory with aliases := memory.aliases.insert name slot } := by
  refine ⟨List.prefix_refl _, fun other leads => ?_⟩
  rw [contains_iff] at leads ⊢
  rcases leads with slot | ⟨target, aliased, there⟩
  · exact .inl slot
  · dsimp only
    rw [OrderedMap.get?_insert]
    split
    · exact .inr ⟨_, rfl, present⟩
    · exact .inr ⟨target, aliased, there⟩

theorem storeMain (memory : WorkingMemory) (name : String) (stuff : Stuff) :
    memory.Extends (memory.storeMain name stuff) := by
  have stored := store memory name stuff
  rw [WorkingMemory.storeMain]
  split
  · exact stored
  · exact stored.trans (insertAlias _ mainName (contains_store.2 (.inl rfl)))

end Extends

end WorkingMemory

namespace Library

open Run

/-- What a run makes of a memory extends it. -/
def growth : MemoryLaw where
  Keeps memory later := memory.Extends later
  Has _ _ := True
  refl := .refl
  trans first second := first.trans second
  inherit _ _ := trivial
  rename _ _ := trivial
  store name keeps _ := keeps.trans (.store _ name _)
  storeMain name keeps _ := keeps.trans (.storeMain _ name _)
  single _ _ := trivial
  fan _ _ _ := trivial

/-- All runs extend their memories. -/
def growing (library : Library) : RunContract library :=
  .ofLaw library growth (fun _ _ => True) (fun _ _ _ => trivial) fun _ _ => trivial

variable {library : Library} {pipe : Pipe} {params : Params} {memory later : WorkingMemory}
variable {output : Option String} {state final : RunState} {result : Output}

theorem extends_run (ran : library.run pipe memory params output state = (.ok result, final)) :
    memory.Extends result.memory ∧ result.memory.find? result.main.name = some result.main := by
  have contract := library.growing.meets_run pipe memory params output state.stack trivial
  obtain ⟨⟨keeps, -⟩, delivers⟩ := contract.ok rfl ran
  refine ⟨keeps, ?_⟩
  rw [WorkingMemory.find?, delivers.stored]

/-- A step extends its memory, and has its result in it. -/
theorem extends_runStep {step : Step}
    (ran : library.runStep library.run step memory params state = (.ok result, final)) :
    memory.Extends result.memory ∧ result.memory.find? result.main.name = some result.main := by
  obtain ⟨callee, middle, -, called⟩ := bind_eq_ok.1 ran
  cases batch : step.batch with
  | none =>
      rw [batch] at called
      exact extends_run called
  | some batched =>
      rw [batch] at called
      obtain ⟨stuff, _, -, concluded⟩ := bind_eq_ok.1 called
      rw [conclude_eq] at concluded
      cases concluded
      exact ⟨.storeMain _ _ _, WorkingMemory.get_eq_ok.1 (WorkingMemory.get_storeMain _ _ _)⟩

/-- The memories that steps find, as far as they are reached, and at the end the one that the last
step leaves. -/
def trail (library : Library) (params : Params) :
    List Step → WorkingMemory → RunState → List WorkingMemory
  | [], memory, _ => [memory]
  | step :: steps, memory, state =>
    memory :: match library.runStep library.run step memory params state with
      | (.ok output, middle) => library.trail params steps output.memory middle
      | (.error _, _) => []

theorem extends_of_mem_trail {steps : List Step}
    (member : later ∈ library.trail params steps memory state) : memory.Extends later := by
  induction steps generalizing memory state with
  | nil =>
      obtain rfl := List.mem_singleton.1 member
      exact .refl later
  | cons step steps ih =>
      rw [trail] at member
      rcases List.mem_cons.1 member with rfl | member
      · exact .refl later
      · split at member
        · next ran => exact (extends_runStep ran).1.trans (ih member)
        · cases member

theorem pairwise_trail (steps : List Step) (memory : WorkingMemory) (state : RunState) :
    (library.trail params steps memory state).Pairwise WorkingMemory.Extends := by
  induction steps generalizing memory state with
  | nil => exact List.pairwise_singleton _ memory
  | cons step steps ih =>
      rw [trail, List.pairwise_cons]
      split
      · next ran =>
        exact ⟨fun later member => (extends_runStep ran).1.trans (extends_of_mem_trail member),
          ih _ _⟩
      · exact ⟨List.forall_mem_nil _, .nil⟩

/-- Where all steps succeed, there is a memory for each of them, and the one that the last has left
is that of the product. -/
theorem trail_eq_append {first : Step} {rest : List Step} {product : Product}
    (ran : library.runSteps library.run params first rest memory state = (.ok product, final)) :
    ∃ found, library.trail params (first :: rest) memory state = found ++ [product.memory] ∧
      found.length = (first :: rest).length := by
  induction rest generalizing first memory state with
  | nil =>
      obtain ⟨result, middle, stepped, concluded⟩ := bind_eq_ok.1 ran
      cases concluded
      exact ⟨[memory], by simp [trail, stepped], rfl⟩
  | cons next rest ih =>
      obtain ⟨result, middle, stepped, continued⟩ := bind_eq_ok.1 ran
      obtain ⟨found, others, length⟩ := ih continued
      refine ⟨memory :: found, ?_, by simp [length]⟩
      rw [trail, stepped]
      exact congrArg (memory :: ·) others

/-- A run that succeeds leaves the slots of the memory in their order before all others, and every
name that led to a stuff still leads to one. In a sequence each memory that a step finds has the
names of those that the steps before it have found. They are all found if the steps succeed, and a
step that succeeds leaves its result in the memory that the next one finds. -/
theorem run_grows (library : Library) (pipe : Pipe) (memory : WorkingMemory) (params : Params)
    (output : Option String) (state : RunState) :
    (∀ result final, library.run pipe memory params output state = (.ok result, final) →
      memory.slots.keys <+: result.memory.slots.keys ∧
      ∀ name, memory.contains name = true → result.memory.contains name = true) ∧
    ∀ sequence, pipe.body = .sequence sequence →
      ((library.trail params sequence.steps memory (state.enter pipe.code)).Pairwise
        fun early late => ∀ name, early.contains name = true → late.contains name = true) ∧
      (∀ product final, library.runBody library.run pipe memory params output
          (state.enter pipe.code) = (.ok product, final) →
        ∃ found, library.trail params sequence.steps memory (state.enter pipe.code) =
            found ++ [product.memory] ∧
          found.length = sequence.steps.length) ∧
      ∀ step ∈ sequence.steps, ∀ before start written after,
        library.runStep library.run step before params start = (.ok written, after) →
        written.memory.contains written.main.name = true := by
  refine ⟨fun result final ran => ?_, fun sequence body => ⟨?_, fun product final ran => ?_, ?_⟩⟩
  · obtain ⟨extended, -⟩ := extends_run ran
    exact ⟨extended.slots, extended.names⟩
  · exact (pairwise_trail _ _ _).imp WorkingMemory.Extends.names
  · simp only [runBody, body] at ran
    exact trail_eq_append ran
  · intro step _ before start written after ran
    exact WorkingMemory.contains_of_find? (extends_runStep ran).2

/-- The report leaves the title and the lines where they are. What its first step has written is
there for the second one and when both are over. -/
theorem report_grows : ∃ result final,
    Sample.library.run Sample.report Sample.memory (Sample.live 3) none .initial =
      (.ok result, final) ∧
    ["line", "lines"] <+: result.memory.slots.keys ∧ result.memory.contains "line" = true ∧
    ∃ sequence, Sample.report.body = .sequence sequence ∧ ∃ first second last,
      Sample.library.trail (Sample.live 3) sequence.steps Sample.memory
        (RunState.initial.enter "report") = [first, second, last] ∧
      first.contains "loud" = false ∧ second.contains "loud" = true ∧
      last.contains "loud" = true := by
  obtain ⟨runs, sequences⟩ :=
    run_grows Sample.library Sample.report Sample.memory (Sample.live 3) none .initial
  obtain ⟨result, final, succeeds⟩ : ∃ result final,
      Sample.library.run Sample.report Sample.memory (Sample.live 3) none .initial =
        (.ok result, final) := ⟨_, _, rfl⟩
  obtain ⟨slots, names⟩ := runs result final succeeds
  obtain ⟨sequence, body, first, second, last, trail, before, between⟩ : ∃ sequence,
      Sample.report.body = .sequence sequence ∧ ∃ first second last,
      Sample.library.trail (Sample.live 3) sequence.steps Sample.memory
        (RunState.initial.enter "report") = [first, second, last] ∧
      first.contains "loud" = false ∧ second.contains "loud" = true :=
    ⟨_, rfl, _, _, _, rfl, rfl, rfl⟩
  obtain ⟨pairwise, -, -⟩ := sequences sequence body
  have found : [first, second, last].Pairwise fun early late =>
      ∀ name, early.contains name = true → late.contains name = true := trail ▸ pairwise
  have later : last.contains "loud" = true :=
    List.rel_of_pairwise_cons found.of_cons List.mem_cons_self "loud" between
  exact ⟨result, final, succeeds, slots, names "line" rfl, sequence, body, first, second, last,
    trail, before, between, later⟩

end Library

end Conduit
