import Conduit.Proofs.Except
import Conduit.Proofs.Outline

/-!
# What a dry run makes up is solid

Where no count is zero, the lists that a dry run makes up are not empty, and so every list in
its memory has items. What is run for the items of a list is then run at least once.

Conditions are the other thing that a dry run cannot foresee, since an answer may choose
another pipe when the contents are others.
-/

namespace Conduit

/-- A count, if there is one, is not zero. -/
def Multiplicity.Positive (multiplicity : Option Multiplicity) : Prop :=
  multiplicity ≠ some (.count 0)

instance (multiplicity : Option Multiplicity) : Decidable (Multiplicity.Positive multiplicity) :=
  inferInstanceAs (Decidable (_ ≠ _))

theorem Multiplicity.Positive.getD {multiplicity : Option Multiplicity}
    (h : Positive multiplicity) {length : Nat} (long : 0 < length) :
    0 < (multiplicity.bind Multiplicity.count?).getD length := by
  rcases multiplicity with _ | many | n
  · exact long
  · exact long
  · exact Nat.pos_of_ne_zero fun zero => h (by rw [show n = 0 from zero])

theorem Demand.resolve_positive {declared override : Option Multiplicity} {length : Nat}
    (h : Multiplicity.Positive declared) (h' : Multiplicity.Positive override)
    (long : 0 < length) : 0 < (Demand.resolve declared override).count.getD length := by
  rcases override with _ | (_ | _) | n
  · exact h.getD long
  · exact long
  · rcases declared with _ | many | n
    · exact long
    · exact long
    · exact h.getD long
  · exact h'.getD long

namespace Vocabulary

variable {vocabulary : Vocabulary} {concept : Concept} {content : Content}

theorem sample_isList (h : vocabulary.sample concept = .ok content) : content.isList = false := by
  unfold sample at h
  dsimp only at h
  repeat' split at h
  any_goals
    cases h
    rfl
  obtain ⟨value, -, rfl⟩ := except_map_eq_ok.1 h
  rfl

theorem sampleList_solid {count : Nat} (many : 0 < count)
    (h : vocabulary.sampleList concept count = .ok content) : content.Solid := by
  rw [sampleList] at h
  rw [if_neg (Nat.ne_of_gt many)] at h
  obtain ⟨item, made, rfl⟩ := except_map_eq_ok.1 h
  refine .list (fun empty => ?_) fun other member => ?_
  · rw [List.replicate_eq_nil_iff] at empty
    omega
  · rw [List.eq_of_mem_replicate member]
    exact .single (sample_isList made)

theorem sampleInput_solid {isList : Bool} {requirement : Requirement} {length : Nat}
    (positive : Multiplicity.Positive requirement.multiplicity) (long : 0 < length)
    (h : vocabulary.sampleInput isList requirement length = .ok content) : content.Solid := by
  rw [sampleInput] at h
  split at h
  · exact sampleList_solid (positive.getD long) h
  · exact .single (sample_isList h)

theorem MadeUp.solid {signature : Signature} {params : Params}
    (positive : Multiplicity.Positive signature.multiplicity)
    (positive' : Multiplicity.Positive params.multiplicity) (long : 0 < params.listLength)
    (h : vocabulary.MadeUp signature params content) : content.Solid := by
  cases h with
  | output h =>
      unfold sampleOutput at h
      dsimp only at h
      split at h
      · exact sampleList_solid (Demand.resolve_positive positive positive' long) h
      · exact .single (sample_isList h)
  | pages h => exact sampleList_solid long h
  | composed h => exact .single h

end Vocabulary

/-- The body chooses nothing, and asks for no list without items. -/
def PipeBody.Foreseeable : PipeBody → Prop
  | .sequence body => ∀ step ∈ body.steps, Multiplicity.Positive step.multiplicity
  | .parallel body => ∀ branch ∈ body.branches, Multiplicity.Positive branch.multiplicity
  | .condition _ => False
  | _ => True

instance : (body : PipeBody) → Decidable body.Foreseeable
  | .sequence body =>
    inferInstanceAs (Decidable (∀ step ∈ body.steps, Multiplicity.Positive step.multiplicity))
  | .parallel body =>
    inferInstanceAs
      (Decidable (∀ branch ∈ body.branches, Multiplicity.Positive branch.multiplicity))
  | .condition _ => .isFalse id
  | .batch _ _ | .prompt _ | .image _ | .extract _ | .call _ | .compose _ => .isTrue trivial

/-- A pipe that chooses nothing, and that has to do with no list without items. -/
structure Pipe.Foreseeable (pipe : Pipe) : Prop where
  inputs : ∀ entry ∈ pipe.signature.inputs.entries,
    Multiplicity.Positive entry.2.multiplicity
  output : Multiplicity.Positive pipe.signature.multiplicity
  body : pipe.body.Foreseeable

instance (pipe : Pipe) : Decidable pipe.Foreseeable :=
  decidable_of_iff ((∀ entry ∈ pipe.signature.inputs.entries,
      Multiplicity.Positive entry.2.multiplicity) ∧
    Multiplicity.Positive pipe.signature.multiplicity ∧ pipe.body.Foreseeable)
    ⟨fun h => ⟨h.1, h.2.1, h.2.2⟩, fun h => ⟨h.inputs, h.output, h.body⟩⟩

theorem Pipe.Foreseeable.calls {pipe : Pipe} {params : Params} {code : String}
    {multiplicity : Option Multiplicity} (h : pipe.Foreseeable)
    (calls : pipe.Calls params code multiplicity) : Multiplicity.Positive multiplicity := by
  have foreseeable := h.body
  cases calls with
  | step body member =>
      rw [body] at foreseeable
      exact foreseeable _ member
  | branch body member =>
      rw [body] at foreseeable
      exact foreseeable _ member
  | choice body member =>
      rw [body] at foreseeable
      cases foreseeable
  | batch body => exact nofun

namespace Library

open Run

/-- A solid memory stays solid. The items of one of its lists are solid, and there are some. -/
def solidity : MemoryLaw :=
  .every Stuff.Solid (fun _ solid => solid)
    (fun made one => by
      obtain ⟨-, rfl⟩ := Stuff.make_eq_ok.1 made
      exact .single one)
    (by
      intro memory batch list items outputs name concept made every found each ok
      obtain ⟨found, listed⟩ := WorkingMemory.getList_eq_ok.1 found
      obtain ⟨-, rfl⟩ := Stuff.make_eq_ok.1 ok
      have solid := every.of_find? found
      rw [Stuff.Solid, listed] at solid
      obtain ⟨nonempty, solid⟩ := solid.items
      refine .list (fun empty => ?_) fun content member => ?_
      · rw [List.map_eq_nil_iff] at empty
        subst empty
        cases each
        exact nonempty rfl
      · obtain ⟨output, inside, rfl⟩ := List.mem_map.1 member
        obtain ⟨item, among, has⟩ := exists_left_of_forall₂ each inside
        exact has (every.store (solid item among)))

/-- The runs that keep their memory solid. -/
structure Sampling (pipe : Pipe) (params : Params) : Prop where
  foreseeable : pipe.Foreseeable
  dry : params.isDry = true
  long : 0 < params.listLength
  positive : Multiplicity.Positive params.multiplicity

theorem Sampling.solid {library : Library} {pipe : Pipe} {params : Params}
    {output : Option String} {stuff : Stuff} (sampling : Sampling pipe params)
    (h : library.Makes pipe.signature params output stuff) : stuff.Solid := by
  obtain ⟨content, made, madeUp⟩ := h
  obtain ⟨-, rfl⟩ := Stuff.make_eq_ok.1 made
  exact (madeUp sampling.dry).solid sampling.foreseeable.output sampling.positive sampling.long

/-- A dry run of pipes that can be foreseen keeps its memory solid. -/
def solid (library : Library) (foreseeable : ∀ pipe ∈ library.pipes, pipe.Foreseeable) :
    RunContract library :=
  .ofLaw library solidity Sampling
    (fun sampling calls found => ⟨foreseeable _ (mem_of_find? found), sampling.dry, sampling.long,
      sampling.foreseeable.calls calls⟩)
    fun sampling made _ => sampling.solid made

end Library

end Conduit
