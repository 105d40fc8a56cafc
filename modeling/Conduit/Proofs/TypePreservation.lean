import Conduit.Proofs.Sample
import Conduit.Proofs.Run.Interpreter

/-!
# Runs preserve types

A memory is well typed when the content of every stuff in it fits the concept of the stuff. A
run that succeeds makes a well-typed memory out of a well-typed one, and its result is the
stuff that the new memory has under the result's name.

Not every stuff is made by a check. A batch takes its items out of a list without one, and
stuffs are renamed. An item of a list that fits a concept fits the concept by itself, and a
name has no part in fitting.
-/

namespace Conduit

theorem Native.isOpen_iff (native : Native) :
    native.isOpen = true ↔ native = .anything ∨ native = .dynamic := by
  cases native <;> simp [isOpen]

/-- Open are only the two native concepts of anything and of what is decided at run time. -/
theorem Concept.isOpen_iff (concept : Concept) :
    concept.isOpen = true ↔ concept.native? = some .anything ∨ concept.native? = some .dynamic := by
  rw [isOpen]
  cases native : concept.native? with
  | none => simp
  | some native => simp [Native.isOpen_iff]

namespace Library

/-- A run keeps a well-typed memory so, and makes well-typed stuffs out of it. -/
def typing : MemoryLaw :=
  .every Stuff.Fits (fun name fits => fits.rename name) (fun made _ => Stuff.fits_of_make made)
    fun _ _ _ made => Stuff.fits_of_make made

/-- All runs respect types. -/
def typed (library : Library) : RunContract library :=
  .ofLaw library typing (fun _ _ => True) (fun _ _ _ => trivial) fun _ made _ => made.fits

/-- A run that succeeds leaves a well-typed memory, if it was given one. Its result stands in that
memory under its own name, and is of a concept that may flow where the declared output is wanted,
unless the declared output is open. -/
theorem run_preserves_types {library : Library} {pipe : Pipe} {memory : WorkingMemory}
    {params : Params} {output : Option String} {state final : RunState} {result : Output}
    (fits : memory.Fits)
    (succeeds : library.run pipe memory params output state = (.ok result, final)) :
    result.memory.Fits ∧
      result.memory.slots.get? result.main.name = some result.main ∧
      (result.main.concept.isCompatible pipe.signature.output = true ∨
        pipe.signature.output.native? = some .anything ∨
        pipe.signature.output.native? = some .dynamic) := by
  have contract := library.typed.meets_run pipe memory params output state.stack trivial
  obtain ⟨⟨keeps, -⟩, delivers⟩ := contract.ok rfl succeeds
  refine ⟨keeps fits, delivers.stored, ?_⟩
  rcases Bool.or_eq_true_iff.1 delivers.declared with isOpen | compatible
  · exact .inr ((Concept.isOpen_iff _).1 isOpen)
  · exact .inl compatible

/-- The lines of the report are texts before they are shouted, and so are they afterwards. -/
theorem report_preserves_types :
    ∃ result final, Sample.memory.Fits ∧
      Sample.library.run Sample.report Sample.memory (Sample.live 3) none .initial =
        (.ok result, final) ∧
      result.memory.Fits ∧
      result.memory.slots.get? result.main.name = some result.main ∧
      (result.main.concept.isCompatible Sample.text = true ∨
        Sample.text.native? = some .anything ∨ Sample.text.native? = some .dynamic) := by
  have fits : Sample.memory.Fits := by decide
  obtain ⟨result, final, succeeds⟩ : ∃ result final,
      Sample.library.run Sample.report Sample.memory (Sample.live 3) none .initial =
        (.ok result, final) := ⟨_, _, rfl⟩
  exact ⟨result, final, fits, succeeds, run_preserves_types fits succeeds⟩

end Library

end Conduit
