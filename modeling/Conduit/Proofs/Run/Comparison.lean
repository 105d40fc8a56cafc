import Conduit.Proofs.Run.Contract

/-!
# Comparing two runs

Two runs are compared of which the first one succeeds. The second run follows it if it succeeds
as well, with a related value, or has an excuse for its failure. What excuses a failure may
depend on the state that the first run leaves, and is not taken back later in that run.

Where a run fails inside a larger one, the other branches still take place, and so the runs may
come to begin in quite different states. A comparison says which pairs of states are allowed
for; it has to allow for whatever the two runs may have done to their states before.
-/

namespace Conduit

/-- What is allowed for when two runs are compared of which the first one succeeds. -/
structure Comparison where
  /-- The states in which the two runs may begin. -/
  Start : RunState → RunState → Prop
  /-- What the first run may do to its state where the second one succeeds. -/
  Calm : RunState → RunState → Prop
  /-- The failures of the second run that are excused by the state that the first one leaves. -/
  Excuse : RunState → RunError → Prop
  start : ∀ {first later second later'}, Start first second → first.Advances later →
    second.Advances later' → Start later later'
  calm_refl : ∀ state, Calm state state
  calm_trans : ∀ {first second third}, Calm first second → Calm second third → Calm first third
  excuse : ∀ {state later error}, state.Advances later → Excuse state error → Excuse later error

namespace Comparison

variable {α β : Type} {comparison : Comparison}

/-- The outcome of the second run, when the first one has gone from one state to another. -/
def Follows (comparison : Comparison) (related : α → Prop) (before after : RunState) :
    Except RunError α → Prop
  | .ok value => related value ∧ comparison.Calm before after
  | .error error => comparison.Excuse after error

theorem Follows.of_calm {related : α → Prop} {before middle after : RunState}
    {outcome : Except RunError α} (calm : comparison.Calm before middle)
    (h : comparison.Follows related middle after outcome) :
    comparison.Follows related before after outcome := by
  cases outcome with
  | ok value => exact ⟨h.1, comparison.calm_trans calm h.2⟩
  | error error => exact h

end Comparison

namespace Run

variable {α β γ δ ε ε' : Type}

/-- Wherever the first run succeeds, the second one follows it. -/
def Tracks (comparison : Comparison) (related : α → β → Prop) (first : Run α) (second : Run β) :
    Prop :=
  ∀ start start' after value, comparison.Start start start' →
    first start = (.ok value, after) →
    comparison.Follows (related value) start after (second start').1

namespace Tracks

variable {comparison : Comparison} {related : α → β → Prop} {first : Run α} {second : Run β}

theorem pure {a : α} {b : β} (h : related a b) :
    Tracks comparison related (Pure.pure a) (Pure.pure b) := by
  intro start start' after value _ result
  cases result
  exact ⟨h, comparison.calm_refl _⟩

/-- What follows a look-up is compared for what the look-ups find. -/
theorem require_bind {related' : γ → δ → Prop} {cause : ε → Cause} {cause' : ε' → Cause}
    {result : Except ε α} {result' : Except ε' β} {next : α → Run γ} {next' : β → Run δ}
    (h : ∀ a, result = .ok a →
      ∃ b, result' = .ok b ∧ Tracks comparison related' (next a) (next' b)) :
    Tracks comparison related' (Run.require cause result >>= next)
      (Run.require cause' result' >>= next') := by
  cases result with
  | error error =>
      intro start start' after value _ succeeds
      cases succeeds
  | ok a =>
      obtain ⟨b, rfl, tracks⟩ := h a rfl
      exact tracks

theorem require {cause : ε → Cause} {cause' : ε' → Cause} {result : Except ε α}
    {result' : Except ε' β} (h : ∀ a, result = .ok a → ∃ b, result' = .ok b ∧ related a b) :
    Tracks comparison related (Run.require cause result) (Run.require cause' result') := by
  cases result with
  | error error =>
      intro start start' after value _ succeeds
      cases succeeds
  | ok a =>
      obtain ⟨b, rfl, related⟩ := h a rfl
      exact pure related

/-- A failure of the second run is excused when it happens; the rest of the first run does not
take that back. -/
theorem bind {related' : γ → δ → Prop} {next : α → Run γ} {next' : β → Run δ}
    (h : Tracks comparison related first second) (advancing : Advancing first)
    (advancing' : Advancing second) (later : ∀ a, Advancing (next a))
    (rest : ∀ a b, related a b → Tracks comparison related' (next a) (next' b)) :
    Tracks comparison related' (first >>= next) (second >>= next') := by
  intro start start' after value started result
  obtain ⟨a, middle, ran, result⟩ := bind_eq_ok.1 result
  have followed := h start start' middle a started ran
  rcases ran' : second start' with ⟨error | b, middle'⟩ <;> rw [ran'] at followed
  · rw [bind_error ran']
    exact comparison.excuse ((later a).of_eq result) followed
  · rw [bind_ok ran']
    have started' := comparison.start started (advancing.of_eq ran) (advancing'.of_eq ran')
    exact (rest a b followed.1 _ _ _ _ started' result).of_calm followed.2

theorem map {related' : γ → δ → Prop} {f : α → γ} {g : β → δ}
    (h : Tracks comparison related first second)
    (rest : ∀ a b, related a b → related' (f a) (g b)) :
    Tracks comparison related' (first >>= fun a => Pure.pure (f a))
      (second >>= fun b => Pure.pure (g b)) := by
  intro start start' after value started result
  obtain ⟨a, middle, ran, result⟩ := bind_eq_ok.1 result
  cases result
  have followed := h start start' _ a started ran
  rcases ran' : second start' with ⟨error | b, middle'⟩ <;> rw [ran'] at followed
  · rw [bind_error ran']
    exact followed
  · rw [bind_ok ran']
    exact ⟨rest a b followed.1, followed.2⟩

/-- What is concluded of the values may rely on how the first run has come to its value. -/
theorem imp {related' : α → β → Prop} (h : Tracks comparison related first second)
    (weaken : ∀ start after a b, first start = (.ok a, after) → related a b → related' a b) :
    Tracks comparison related' first second := by
  intro start start' after value started result
  have followed := h start start' after value started result
  cases outcome : (second start').1 with
  | error error =>
      rw [outcome] at followed
      exact followed
  | ok value' =>
      rw [outcome] at followed
      exact ⟨weaken start after value value' result followed.1, followed.2⟩

theorem both {related' : γ → δ → Prop} {other : Run γ} {other' : Run δ}
    (h : Tracks comparison related first second) (h' : Tracks comparison related' other other')
    (advancing : Advancing first) (advancing' : Advancing second) (later : Advancing other) :
    Tracks comparison (fun values values' => related values.1 values'.1 ∧
      related' values.2 values'.2) (Run.both first other) (Run.both second other') := by
  intro start start' after values started result
  rw [both_apply] at result ⊢
  obtain ⟨outcome, rfl⟩ := Prod.mk.inj result
  obtain ⟨one, two⟩ := pair_eq_ok.1 outcome
  have followed := h _ start' _ _ started (Prod.ext one rfl)
  have started' := comparison.start started (advancing start) (advancing' start')
  have followed' := h' _ _ _ _ started' (Prod.ext two rfl)
  dsimp only at followed followed' ⊢
  cases ran : (second start').1 with
  | error error =>
      rw [ran] at followed
      exact comparison.excuse (later _) followed
  | ok b =>
      rw [ran] at followed
      cases ran' : (other' (second start').2).1 with
      | error error =>
          rw [ran'] at followed'
          exact followed'
      | ok d =>
          rw [ran'] at followed'
          exact ⟨⟨followed.1, followed'.1⟩, comparison.calm_trans followed.2 followed'.2⟩

theorem join {items : List γ} {branch : γ → Run α} {branch' : γ → Run β}
    (h : ∀ item ∈ items, Tracks comparison related (branch item) (branch' item))
    (advancing : ∀ item, Advancing (branch item)) (advancing' : ∀ item, Advancing (branch' item)) :
    Tracks comparison (List.Forall₂ related) (Run.join (items.map branch))
      (Run.join (items.map branch')) := by
  induction items with
  | nil => exact pure .nil
  | cons item items ih =>
      have others := ih fun item member => h item (List.mem_cons_of_mem _ member)
      have first := h item List.mem_cons_self
      exact (first.both others (advancing item) (advancing' item) (.join advancing)).map
        fun _ _ values => .cons values.1 values.2

/-- A frame around each of two bodies. The bodies are compared one place further up on either
stack; where the second stack is full, the first run excuses that by its having had a place. -/
theorem framed {limit limit' : Nat} {code : String} {context context' : PipeStack → Context}
    (inner : Comparison) (advancing : Advancing first)
    (body : ∀ {s t : RunState}, comparison.Start s t → s.stack.length < limit →
      t.stack.length < limit' →
      inner.Start (s.enter code) (t.enter code) ∧ Tracks inner related first second)
    (calm : ∀ {s t after : RunState}, comparison.Start s t → t.stack.length < limit' →
      inner.Calm (s.enter code) after → comparison.Calm s (after.leave code))
    (excuse : ∀ {after : RunState} {error : RunError} {context : Context},
      inner.Excuse after error → comparison.Excuse (after.leave code) (error.annotate context))
    (overflow : ∀ {s t after : RunState} {context : Context}, comparison.Start s t →
      s.stack.length < limit → limit' ≤ t.stack.length → (s.enter code).Advances after →
      comparison.Excuse (after.leave code) ((RunError.ofCause
        (.stackOverflow limit' (t.stack ++ [code]))).annotate context)) :
    Tracks comparison related (Run.framed limit code context first)
      (Run.framed limit' code context' second) := by
  intro s t after value started result
  by_cases room : s.stack.length < limit
  · rcases ran : first (s.enter code) with ⟨error | a, final⟩
    · rw [framed_error room ran] at result
      cases result
    · rw [framed_ok room ran] at result
      cases result
      by_cases room' : t.stack.length < limit'
      · obtain ⟨started', tracks⟩ := body started room room'
        have followed := tracks _ _ _ _ started' ran
        rcases ran' : second (t.enter code) with ⟨error | b, final'⟩ <;> rw [ran'] at followed
        · rw [framed_error room' ran']
          exact excuse followed
        · rw [framed_ok room' ran']
          exact ⟨followed.1, calm started room' followed.2⟩
      · rw [framed_full (Nat.not_lt.1 room')]
        exact overflow started room (Nat.not_lt.1 room') (advancing.of_eq ran)
  · rw [framed_full (Nat.not_lt.1 room)] at result
    cases result

end Tracks

end Run

end Conduit
