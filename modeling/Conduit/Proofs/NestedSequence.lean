import Conduit.Proofs.BatchedStep

/-!
# A sequence inside a sequence

A step of a sequence may call a pipe that is itself a sequence. Then the steps of the called pipe
may as well stand in its place: what succeeds with the call succeeds without it, and comes to the
same memory and the same result.

The call adds a place on the stack, checks of the inputs and of the output, and parameters in which
no multiplicity is wanted. Each step sets the multiplicity anew, and to have one place less on the
stack does no harm. The called pipe also stores its result, and it does so under the name that the
result has; but its last step has stored the same result there already. So the memory that the call
leaves is the memory that its last step leaves.

Steps in a row are run with their outputs handed on, and `Performs` says so in a form that can be
taken apart and put together at every step. All inductions are on it or on the list of the steps.
-/

namespace Conduit

/-- The body of the pipe is a sequence of these steps. -/
def Pipe.RunsSteps (pipe : Pipe) (steps : List Step) : Prop :=
  ∃ sequence, pipe.body = .sequence sequence ∧ sequence.steps = steps

namespace Sample

/-- Have a line written, post another one, and stamp all lines. -/
def deliver : Pipe where
  signature :=
    { domain := "demo", code := "deliver", definition := "Deliver the mail"
      inputs := .ofList [("lines", ⟨text, some (.flag true)⟩)]
      output := text, multiplicity := some (.flag true) }
  body := .sequence ⟨⟨"write", some "draft", none, none⟩, [⟨"post", none, none, none⟩, stampStep]⟩

/-- Do the same without a call of the pipe that posts a line. -/
def deliverAtOnce : Pipe where
  signature := { deliver.signature with code := "deliver_at_once" }
  body := .sequence ⟨⟨"write", some "draft", none, none⟩,
    [⟨"write", some "line", none, none⟩, ⟨"stamp", none, none, none⟩, stampStep]⟩

end Sample

namespace Library

open Run

/-- Steps that are run in a row, each on the memory that the one before it leaves. The output is
that of the last step, or what there was before if there is no step. -/
inductive Performs (library : Library) (params : Params) :
    List Step → Output → RunState → Output → RunState → Prop
  | nil (given : Output) (state : RunState) : Performs library params [] given state given state
  | cons {step : Step} {steps : List Step} {before given after : Output}
      {state middle final : RunState}
      (stepped : library.runStep library.run step before.memory params state =
        (.ok given, middle))
      (rest : Performs library params steps given middle after final) :
      Performs library params (step :: steps) before state after final

/-- To store the output once more under its name changes nothing. -/
def Stored (given : Output) : Prop :=
  (⟨given.memory.storeMain given.main.name given.main, given.main.rename given.main.name⟩ :
    Output) = given

variable {library : Library} {params : Params} {pipe : Pipe} {memory : WorkingMemory}
variable {output : Option String} {steps others : List Step} {before given after : Output}
variable {state middle final : RunState}

theorem stored_run
    (ran : library.run pipe memory params output state = (.ok given, final)) : Stored given := by
  obtain ⟨stored, renamed⟩ := run_stored ran
  have named : output.getD given.main.name = given.main.name := congrArg Stuff.name renamed
  rw [named] at stored renamed
  rw [Stored, stored, renamed]

/-- What a step gives has been stored. -/
theorem stored_runStep {step : Step}
    (stepped : library.runStep library.run step memory params state = (.ok given, final)) :
    Stored given := by
  obtain ⟨pipe, _, found, stepped⟩ := bind_eq_ok.1 stepped
  cases batched : step.batch with
  | none =>
      simp only [batched] at stepped
      exact stored_run stepped
  | some batch =>
      simp only [batched, conclude_eq] at stepped
      obtain ⟨stuff, _, -, concluded⟩ := bind_eq_ok.1 stepped
      cases concluded
      exact congrArg (Output.mk · _) (WorkingMemory.storeMain_storeMain _ _ _)

namespace Performs

theorem append_iff : library.Performs params (steps ++ others) before state after final ↔
    ∃ given middle, library.Performs params steps before state given middle ∧
      library.Performs params others given middle after final := by
  induction steps generalizing before state with
  | nil =>
      constructor
      · exact fun all => ⟨before, state, .nil before state, all⟩
      · rintro ⟨given, middle, ⟨⟩, rest⟩
        exact rest
  | cons step steps ih =>
      constructor
      · rintro (_ | ⟨stepped, rest⟩)
        obtain ⟨given, middle, performed, rest⟩ := ih.1 rest
        exact ⟨given, middle, .cons stepped performed, rest⟩
      · rintro ⟨given, middle, _ | ⟨stepped, performed⟩, rest⟩
        exact .cons stepped (ih.2 ⟨given, middle, performed, rest⟩)

theorem stack (performed : library.Performs params steps before state after final) :
    final.stack = state.stack := by
  induction performed with
  | nil => rfl
  | cons stepped _ ih =>
      exact ih.trans ((advancing_runStep library.advancing_run).of_eq stepped).stack

/-- Each step sets the multiplicity that is wanted anew. -/
theorem forCallee (multiplicity : Option Multiplicity)
    (performed : library.Performs (params.forCallee multiplicity) steps before state after final) :
    library.Performs params steps before state after final := by
  induction performed with
  | nil given state => exact .nil given state
  | cons stepped _ ih => exact .cons stepped ih

/-- Steps that succeed do so on every stack that is no higher. -/
theorem lower {start : RunState} (steady : library.collaborators.Steady)
    (low : start.stack.length ≤ state.stack.length)
    (performed : library.Performs params steps before state after final) :
    ∃ final', library.Performs params steps before start after final' ∧
      final'.stack.length ≤ final.stack.length := by
  induction performed generalizing start with
  | nil given state => exact ⟨start, .nil given start, low⟩
  | cons stepped _ ih =>
      have kept := ((advancing_runStep library.advancing_run).of_eq stepped).stack
      obtain ⟨middle', stepped'⟩ := runStep_lower steady low stepped
      have kept' := ((advancing_runStep library.advancing_run).of_eq stepped').stack
      rw [← kept, ← kept'] at low
      obtain ⟨final', rest, low'⟩ := ih low
      exact ⟨final', .cons stepped' rest, low'⟩

/-- The output of steps has been stored if there is any step, or if that has been so before. -/
theorem stored (performed : library.Performs params steps before state after final)
    (some_stored : steps ≠ [] ∨ Stored before) : Stored after := by
  induction performed with
  | nil => exact some_stored.resolve_left (absurd rfl)
  | cons stepped _ ih => exact ih (.inr (stored_runStep stepped))

end Performs

/-- The steps of a sequence are performed, and their output is the product. What has been the latest
result before does not matter. -/
theorem runSteps_iff_performs {first : Step} {rest : List Step} {product : Product} :
    library.runSteps library.run params first rest before.memory state = (.ok product, final) ↔
      ∃ given, library.Performs params (first :: rest) before state given final ∧
        product = ⟨given.memory, given.main⟩ := by
  induction rest generalizing first before state with
  | nil =>
      constructor
      · intro ran
        obtain ⟨given, _, stepped, concluded⟩ := bind_eq_ok.1 ran
        cases concluded
        exact ⟨given, .cons stepped (.nil given final), rfl⟩
      · rintro ⟨given, _ | ⟨stepped, ⟨⟩⟩, rfl⟩
        exact bind_eq_ok.2 ⟨given, final, stepped, rfl⟩
  | cons next rest ih =>
      constructor
      · intro ran
        obtain ⟨between, middle, stepped, ran⟩ := bind_eq_ok.1 ran
        obtain ⟨given, performed, rfl⟩ := ih.1 ran
        exact ⟨given, .cons stepped performed, rfl⟩
      · rintro ⟨given, _ | ⟨stepped, performed⟩, rfl⟩
        exact bind_eq_ok.2 ⟨_, _, stepped, ih.2 ⟨given, performed, rfl⟩⟩

/-- A run of a sequence performs the steps one place further up and stores their output. -/
theorem run_eq_ok_of_runsSteps (runs : pipe.RunsSteps steps) :
    library.run pipe before.memory params output state = (.ok after, final) ↔
      state.stack.length < params.limit ∧
      checkInputs pipe before.memory params = .ok () ∧
      ∃ given inner, library.Performs params steps before (state.enter pipe.code) given inner ∧
        checkOutput pipe given.main.concept = .ok () ∧
        after = ⟨given.memory.storeMain (output.getD given.main.name) given.main,
          given.main.rename (output.getD given.main.name)⟩ ∧
        final = inner.leave pipe.code := by
  obtain ⟨sequence, body, rfl⟩ := runs
  rw [run_eq_ok]
  simp only [runBody, body]
  constructor
  · rintro ⟨free, checked, product, inner, ran, fits, result, left⟩
    obtain ⟨given, performed, rfl⟩ := runSteps_iff_performs.1 ran
    exact ⟨free, checked, given, inner, performed, fits, result, left⟩
  · rintro ⟨free, checked, given, inner, performed, fits, result, left⟩
    exact ⟨free, checked, _, inner, runSteps_iff_performs.2 ⟨given, performed, rfl⟩, fits, result,
      left⟩

/-- A call of a sequence does what its steps do, so that they may stand in its place. -/
theorem performs_of_call {start : RunState} (steady : library.collaborators.Steady)
    (known : library.find? pipe.code = some pipe) (runs : pipe.RunsSteps steps)
    (low : start.stack.length ≤ state.stack.length)
    (called : library.runStep library.run ⟨pipe.code, none, none, none⟩ before.memory params state =
      (.ok given, final)) :
    ∃ final', library.Performs params steps before start given final' ∧
      final'.stack.length ≤ final.stack.length := by
  have kept := ((advancing_runStep library.advancing_run).of_eq called).stack
  rw [runStep_single rfl known] at called
  obtain ⟨-, -, result, inner, performed, -, rfl, -⟩ := (run_eq_ok_of_runsSteps runs).1 called
  have nonempty : steps ≠ [] := by
    obtain ⟨sequence, -, rfl⟩ := runs
    exact List.cons_ne_nil _ _
  have same : Stored result := performed.stored (.inl nonempty)
  have below : start.stack.length ≤ (state.enter pipe.code).stack.length := by
    rw [RunState.length_enter]
    exact Nat.le_succ_of_le low
  obtain ⟨final', performed', -⟩ := (performed.forCallee none).lower steady below
  refine ⟨final', ?_, ?_⟩
  · rwa [show (none : Option String).getD result.main.name = result.main.name from rfl, same]
  · rwa [kept, performed'.stack]

/-- A sequence calls another one in a plain step. If it succeeds, then so does the sequence in which
the steps of the other one stand in place of that step, with the same memory and the same
result. -/
theorem run_flattened {outer inner flat : Pipe} {front inside back : List Step}
    (steady : library.collaborators.Steady)
    (known : library.find? inner.code = some inner) (insideRuns : inner.RunsSteps inside)
    (outerRuns : outer.RunsSteps (front ++ ⟨inner.code, none, none, none⟩ :: back))
    (flatRuns : flat.RunsSteps (front ++ inside ++ back))
    (signature : flat.signature = { outer.signature with code := flat.code })
    (memory : WorkingMemory) (params : Params) (output : Option String) (state final : RunState)
    (result : Output)
    (ran : library.run outer memory params output state = (.ok result, final)) :
    ∃ final', library.run flat memory params output state = (.ok result, final') := by
  -- What the latest result is before the first step does not matter.
  let start : Output := ⟨memory, result.main⟩
  change library.run outer start.memory params output state = _ at ran
  obtain ⟨free, checked, last, _, performed, fits, rfl, -⟩ :=
    (run_eq_ok_of_runsSteps outerRuns).1 ran
  obtain ⟨early, _, inFront, _ | ⟨called, behind⟩⟩ := Performs.append_iff.1 performed
  have level : (state.enter flat.code).stack.length ≤ (state.enter outer.code).stack.length :=
    Nat.le_of_eq (by rw [RunState.length_enter, RunState.length_enter])
  obtain ⟨_, inFront, low⟩ := inFront.lower steady level
  obtain ⟨_, within, low⟩ := performs_of_call steady known insideRuns low called
  obtain ⟨flatInner, behind, -⟩ := behind.lower steady low
  have all : library.Performs params (front ++ inside ++ back) start (state.enter flat.code) last
      flatInner :=
    Performs.append_iff.2 ⟨_, _, Performs.append_iff.2 ⟨_, _, inFront, within⟩, behind⟩
  have inputs : flat.signature.inputs = outer.signature.inputs := by rw [signature]
  have declared : flat.signature.output = outer.signature.output := by rw [signature]
  have alike : Likeness.equality.Memories memory memory := rfl
  have flatChecked : checkInputs flat memory params = .ok () :=
    checkInputs_of_alike inputs alike checked
  have flatFits := checkOutput_of_output declared fits
  exact ⟨_, (run_eq_ok_of_runsSteps flatRuns).2
    ⟨free, flatChecked, last, flatInner, all, flatFits, rfl, rfl⟩⟩

/-- The mail is delivered at once as it is delivered by a call. With two places on the stack, only
the call fails. -/
theorem mail_flattened :
    Sample.openOffice.collaborators.Steady ∧
    (∃ result final final',
      Sample.openOffice.run Sample.deliver Sample.memory (Sample.live 3) (some "mail") .initial =
        (.ok result, final) ∧
      Sample.openOffice.run Sample.deliverAtOnce Sample.memory (Sample.live 3) (some "mail")
        .initial = (.ok result, final')) ∧
    (Sample.openOffice.run Sample.deliver Sample.memory (Sample.live 2) (some "mail")
      .initial).1.isOk = false ∧
    (Sample.openOffice.run Sample.deliverAtOnce Sample.memory (Sample.live 2) (some "mail")
      .initial).1.isOk = true := by
  have steady : Sample.openOffice.collaborators.Steady := .of_answer rfl
  have insideRuns : Sample.post.RunsSteps
      [⟨"write", some "line", none, none⟩, ⟨"stamp", none, none, none⟩] := ⟨_, rfl, rfl⟩
  have outerRuns : Sample.deliver.RunsSteps ([⟨"write", some "draft", none, none⟩] ++
      ⟨Sample.post.code, none, none, none⟩ :: [Sample.stampStep]) := ⟨_, rfl, rfl⟩
  have succeeds : (Sample.openOffice.run Sample.deliver Sample.memory (Sample.live 3) (some "mail")
      .initial).1.isOk = true := by decide +kernel
  obtain ⟨result, final, called⟩ := isOk_iff.1 succeeds
  have flatRuns : Sample.deliverAtOnce.RunsSteps ([⟨"write", some "draft", none, none⟩] ++
      [⟨"write", some "line", none, none⟩, ⟨"stamp", none, none, none⟩] ++ [Sample.stampStep]) :=
    ⟨_, rfl, rfl⟩
  have flattened := run_flattened steady rfl insideRuns outerRuns flatRuns rfl
  obtain ⟨final', atOnce⟩ := flattened _ _ _ _ _ _ called
  exact ⟨steady, ⟨result, final, final', called, atOnce⟩, by decide +kernel, by decide +kernel⟩

end Library

end Conduit
