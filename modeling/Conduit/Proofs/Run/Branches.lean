import Conduit.Proofs.Run.Contract

/-!
# Branches in turn

Branches are run one after the other. Each is run once, also when one before it has failed, and
each begins in the state in which the one before it has ended. So what the generator has been
asked by all of them is what it has been asked by the first, then by the second, and so on. If
some fail, then the first of them decides on the outcome of the whole.

This is shown for `join` by induction on the branches. What is made of the values afterwards may
fail as well, but it asks no one.
-/

namespace Conduit

/-- What the generator has been asked since then. -/
theorem RunState.Advances.jobs {before after : RunState} (h : before.Advances after) :
    ∃ asked, after.jobs = before.jobs ++ asked := by
  obtain ⟨requests, since⟩ := h.journal
  refine ⟨requests.filterMap Request.job?, ?_⟩
  rw [RunState.jobs, RunState.jobs, ← since, List.filterMap_append]

namespace Run

variable {α β γ ι : Type}

/-- Runs that take place one after the other, with the outcome of each and with the jobs that each
has given to the generator. All begin with the same stack. -/
inductive InTurn : List (Run α) → RunState → List (Except RunError α) → List (List Job) →
    RunState → Prop
  | nil (state : RunState) : InTurn [] state [] [] state
  | cons {run : Run α} {runs : List (Run α)} {state final : RunState}
      {outcomes : List (Except RunError α)} {jobs : List Job} {asked : List (List Job)}
      (stack : (run state).2.stack = state.stack)
      (asks : (run state).2.jobs = state.jobs ++ jobs)
      (rest : InTurn runs (run state).2 outcomes asked final) :
      InTurn (run :: runs) state ((run state).1 :: outcomes) (jobs :: asked) final

namespace InTurn

variable {runs : List (Run α)} {state final : RunState} {outcomes : List (Except RunError α)}
variable {asked : List (List Job)}

theorem length (h : InTurn runs state outcomes asked final) : outcomes.length = runs.length := by
  induction h with
  | nil => rfl
  | cons _ _ _ ih => rw [List.length_cons, List.length_cons, ih]

/-- All jobs are those of the runs, in the order of the runs. -/
theorem jobs (h : InTurn runs state outcomes asked final) :
    final.jobs = state.jobs ++ asked.flatten := by
  induction h with
  | nil => simp
  | cons _ asks _ ih => rw [ih, asks, List.flatten_cons, List.append_assoc]

/-- Where no run fails, every value is that of its own run. -/
theorem values {items : List ι} {branch : ι → Run α} {values : List α}
    (h : InTurn (items.map branch) state (values.map .ok) asked final) :
    List.Forall₂ (fun item value => ∃ start rest, branch item start = (.ok value, rest))
      items values := by
  induction items generalizing state values asked with
  | nil =>
      cases values with
      | nil => exact .nil
      | cons value values => cases h
  | cons item items ih =>
      cases values with
      | nil => cases h
      | cons value values =>
          generalize outcomes : (value :: values).map Except.ok = all at h
          cases h with
          | cons _ _ rest =>
              obtain ⟨first, others⟩ := List.cons.inj outcomes
              subst others
              exact .cons ⟨state, _, Prod.ext first.symm rfl⟩ (ih rest)

end InTurn

/-- The first failure is the failure of the whole; if there is none, then the values make for the
outcome. -/
inductive Settles (made : List α → Except RunError β → Prop) :
    List (Except RunError α) → Except RunError β → Prop
  | values (values : List α) {outcome : Except RunError β} (makes : made values outcome) :
      Settles made (values.map .ok) outcome
  | failure (values : List α) (error : RunError) (others : List (Except RunError α)) :
      Settles made (values.map .ok ++ .error error :: others) (.error error)

/-- The values make for a joint value. -/
def Succeeds (good : List α → β → Prop) (values : List α) (outcome : Except RunError β) : Prop :=
  ∃ joint, outcome = .ok joint ∧ good values joint

/-- A run that is a run of these branches in turn, and of nothing else that asks the generator. -/
def Joins (branches : List (Run α)) (made : List α → Except RunError β → Prop) (run : Run β) :
    Prop :=
  ∀ state, ∃ outcomes asked, InTurn branches state outcomes asked (run state).2 ∧
    (run state).2.jobs = state.jobs ++ asked.flatten ∧ Settles made outcomes (run state).1

namespace Joins

variable {branch : Run α} {branches : List (Run α)} {run : Run β} {good : List α → β → Prop}

/-- What is made of the values changes nothing but the outcome. -/
theorem bind {made : List α → Except RunError γ → Prop} {next : β → Run γ}
    (h : Joins branches (Succeeds good) run)
    (rest : ∀ values joint, good values joint → ∀ state,
      (next joint state).2 = state ∧ made values (next joint state).1) :
    Joins branches made (run >>= next) := by
  intro state
  obtain ⟨outcomes, asked, turns, jobs, settles⟩ := h state
  refine ⟨outcomes, asked, ?_⟩
  rcases ran : run state with ⟨outcome, middle⟩
  rw [ran] at turns jobs settles
  cases settles with
  | values values settled =>
      obtain ⟨joint, rfl, fine⟩ := settled
      rw [bind_ok ran]
      obtain ⟨same, makes⟩ := rest values joint fine middle
      rw [same]
      exact ⟨turns, jobs, .values values makes⟩
  | failure values error others =>
      rw [bind_error ran]
      exact ⟨turns, jobs, .failure values error others⟩

/-- The outcome is changed, and nothing else. -/
theorem map {made : List α → Except RunError β → Prop} {made' : List α → Except RunError γ → Prop}
    {f : β → γ} (h : Joins branches made run)
    (changed : ∀ values outcome, made values outcome → made' values (outcome.map f)) :
    Joins branches made' (run >>= fun value => pure (f value)) := by
  intro state
  obtain ⟨outcomes, asked, turns, jobs, settles⟩ := h state
  refine ⟨outcomes, asked, ?_⟩
  rcases ran : run state with ⟨error | value, middle⟩ <;> rw [ran] at turns jobs settles
  · rw [bind_error ran]
    refine ⟨turns, jobs, ?_⟩
    cases settles with
    | values values makes => exact .values values (changed values _ makes)
    | failure values error others => exact .failure values error others
  · rw [bind_ok ran]
    refine ⟨turns, jobs, ?_⟩
    cases settles with
    | values values makes => exact .values values (changed values _ makes)

/-- There is one value for every branch. -/
theorem counted {items : List ι} {branch : ι → Run α} {made : List α → Except RunError β → Prop}
    (h : Joins (items.map branch) made run) :
    Joins (items.map branch)
      (fun values outcome => values.length = items.length ∧ made values outcome) run := by
  intro state
  obtain ⟨outcomes, asked, turns, jobs, settles⟩ := h state
  refine ⟨outcomes, asked, turns, jobs, ?_⟩
  generalize (run state).1 = outcome at settles ⊢
  cases settles with
  | values values makes =>
      have length := turns.length
      rw [List.length_map, List.length_map] at length
      exact .values values ⟨length, makes⟩
  | failure values error others => exact .failure values error others

/-- One more branch in front. -/
theorem both (advancing : Advancing branch)
    (h : Joins branches (Succeeds good) run) :
    Joins (branch :: branches)
      (Succeeds fun values joint => ∃ others, values = joint.1 :: others ∧ good others joint.2)
      (Run.both branch run) := by
  intro state
  obtain ⟨outcomes, asked, turns, -, settles⟩ := h (branch state).2
  obtain ⟨own, asks⟩ := (advancing state).jobs
  have all : InTurn (branch :: branches) state ((branch state).1 :: outcomes) (own :: asked)
      (run (branch state).2).2 := .cons (advancing state).stack asks turns
  refine ⟨_, _, all, all.jobs, ?_⟩
  rw [both_apply]
  generalize (run (branch state).2).1 = joined at settles
  -- A failure of the first branch hides what the others come to, but they have been run as well.
  cases (branch state).1 with
  | error error => exact .failure [] error outcomes
  | ok value =>
      cases settles with
      | values values settled =>
          obtain ⟨joint, rfl, fine⟩ := settled
          exact .values (value :: values) ⟨(value, joint), rfl, values, rfl, fine⟩
      | failure values error others => exact .failure (value :: values) error others

/-- The induction is on the items, of which each has its branch. -/
theorem join {items : List ι} {branch : ι → Run α} (advancing : ∀ item, Advancing (branch item)) :
    Joins (items.map branch) (Succeeds Eq) (Run.join (items.map branch)) := by
  induction items with
  | nil =>
      intro state
      exact ⟨[], [], .nil state, (List.append_nil _).symm, .values [] ⟨[], rfl, rfl⟩⟩
  | cons item items ih =>
      apply (both (advancing item) ih).bind
      rintro _ ⟨value, _⟩ ⟨values, rfl, rfl⟩ state
      exact ⟨rfl, value :: values, rfl, rfl⟩

end Joins

end Run

end Conduit
