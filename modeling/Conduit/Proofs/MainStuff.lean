import Conduit.Proofs.Sample
import Conduit.Proofs.Run.Agreement

/-!
# The latest result under the main name

After a run the main name is meant to lead to the result. It is an alias, and slots are looked up
before aliases. So the result is what the main name leads to unless some other stuff stands in a
slot of that name. Such a stuff may come from the caller, or from a step or branch that calls its
result so, and it stays in front of all later results.
-/

namespace Conduit

namespace WorkingMemory

/-- The main name leads to what stands in its own slot, or else to what has been stored last. -/
theorem getMain_storeMain (memory : WorkingMemory) (name : String) (stuff : Stuff) :
    (memory.storeMain name stuff).getMain =
      .ok (((memory.storeMain name stuff).slots.get? mainName).getD (stuff.rename name)) := by
  rw [getMain, find?]
  cases slot : (memory.storeMain name stuff).slots.get? mainName with
  | some other => rfl
  | none =>
      have stored : (memory.storeMain name stuff).slots.get? name = some (stuff.rename name) := by
        rw [storeMain_slots, get?_store_self]
      have other : name ≠ mainName := by
        rintro rfl
        rw [slot] at stored
        cases stored
      have leads : (memory.storeMain name stuff).aliases.get? mainName = some name := by
        simp [storeMain, other]
      simp [leads, get?_store_self]

end WorkingMemory

namespace Library

variable {library : Library} {pipe : Pipe} {memory : WorkingMemory} {params : Params}
variable {output : Option String} {state final : RunState} {result : Output}

/-- After a run the main name leads to the result, unless some other stuff stands in a slot of that
name. -/
theorem run_getMain
    (ran : library.run pipe memory params output state = (.ok result, final)) :
    result.memory.getMain =
      .ok ((result.memory.slots.get? WorkingMemory.mainName).getD result.main) := by
  obtain ⟨-, -, product, _, -, -, rfl, -⟩ := run_eq_ok.1 ran
  exact WorkingMemory.getMain_storeMain _ _ _

/-- The report leaves no slot of the main name, so the main name leads to the last line shouted. -/
theorem report_getMain : ∃ result final,
    Sample.library.run Sample.report Sample.memory (Sample.live 3) none .initial =
      (.ok result, final) ∧
    result.memory.getMain = .ok result.main := by
  obtain ⟨result, final, succeeds, free⟩ : ∃ result final,
      Sample.library.run Sample.report Sample.memory (Sample.live 3) none .initial =
        (.ok result, final) ∧ result.memory.slots.get? WorkingMemory.mainName = none :=
    ⟨_, _, rfl, rfl⟩
  have leads := run_getMain succeeds
  rw [free] at leads
  exact ⟨result, final, succeeds, leads⟩

/-- With a stuff called `main_stuff` among those of the caller, a line is shouted and the main name
still leads to that stuff. -/
theorem shout_main_shadowed : ∃ result final,
    Sample.library.run Sample.shout (Sample.memory.store WorkingMemory.mainName
      ⟨WorkingMemory.mainName, Sample.text, .text "old"⟩) (Sample.live 1) none .initial =
        (.ok result, final) ∧
    result.memory.getMain ≠ .ok result.main := by
  refine ⟨_, _, rfl, fun same => ?_⟩
  have names := congrArg Stuff.name (Except.ok.inj same)
  revert names
  decide

end Library

end Conduit
