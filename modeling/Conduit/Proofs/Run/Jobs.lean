import Conduit.Proofs.Run.Agreement

/-!
# What the generator is asked

The jobs that a run sends are those that the generator has had when the run is over and had not had
before. They stay sent when the run fails. So a statement about them is one about both outcomes,
while a statement about the value is one about success only. The two are carried along together,
for what is sent later may depend on a value that has been found before.

A pipe that makes content sends one job at most, whatever comes of it.
-/

namespace Conduit

/-- From the one state to the other the generator has had such jobs only. -/
def RunState.Sends (allowed : Job → Prop) (before after : RunState) : Prop :=
  ∃ sent, after.jobs = before.jobs ++ sent ∧ ∀ job ∈ sent, allowed job

namespace RunState

theorem jobs_append (state : RunState) (request : Request) :
    { state with journal := state.journal ++ [request] }.jobs =
      state.jobs ++ request.job?.toList := by
  rw [jobs, List.filterMap_append]
  cases request <;> rfl

namespace Sends

variable {allowed : Job → Prop} {first second third : RunState}

theorem refl (state : RunState) : state.Sends allowed state :=
  ⟨[], (List.append_nil _).symm, List.forall_mem_nil _⟩

theorem trans (h : first.Sends allowed second) (h' : second.Sends allowed third) :
    first.Sends allowed third := by
  obtain ⟨sent, jobs, allows⟩ := h
  obtain ⟨sent', jobs', allows'⟩ := h'
  refine ⟨sent ++ sent', ?_, List.forall_mem_append.2 ⟨allows, allows'⟩⟩
  rw [jobs', jobs, List.append_assoc]

/-- To ask a collaborator is to send a job, or nothing if it is not the generator. -/
theorem asked (state : RunState) {request : Request}
    (allows : ∀ job, request.job? = some job → allowed job) :
    state.Sends allowed { state with journal := state.journal ++ [request] } :=
  ⟨_, state.jobs_append request, fun _ member => allows _ (Option.mem_toList.1 member)⟩

end Sends

end RunState

namespace Run

variable {α β ε : Type}

/-- Whatever comes of it, the run sends such jobs only, and if it succeeds, then with such a
value. -/
def Sends (allowed : Job → Prop) (good : α → Prop) (run : Run α) : Prop :=
  ∀ state : RunState, state.Sends allowed (run state).2 ∧
    ∀ value, (run state).1 = .ok value → good value

namespace Sends

variable {allowed : Job → Prop} {good good' : α → Prop} {run : Run α}

theorem mono_good (h : Sends allowed good run) (ok : ∀ value, good value → good' value) :
    Sends allowed good' run :=
  fun state => ⟨(h state).1, fun value result => ok value ((h state).2 value result)⟩

/-- What is known of the value from elsewhere. -/
theorem of_meets {bad : RunError → Prop} (h : Sends allowed good run)
    (meets : ∀ stack, Meets stack good' bad run) : Sends allowed good' run := by
  intro state
  refine ⟨(h state).1, fun value result => ?_⟩
  exact (meets state.stack).ok rfl (Prod.ext result rfl)

theorem pure {value : α} (h : good value) : Sends allowed good (Pure.pure value) := by
  intro state
  refine ⟨.refl state, fun other result => ?_⟩
  cases result
  exact h

theorem fail {cause : Cause} : Sends allowed good (Run.fail cause) :=
  fun state => ⟨.refl state, fun _ result => nomatch result⟩

theorem require {cause : ε → Cause} {result : Except ε α}
    (ok : ∀ value, result = .ok value → good value) :
    Sends allowed good (Run.require cause result) := by
  cases result with
  | ok value => exact pure (ok value rfl)
  | error error => exact fail

/-- An idle run sends nothing. -/
theorem idle (h : Idle run) : Sends allowed (fun _ => True) run := by
  obtain ⟨result, rfl⟩ := h
  exact require fun _ _ => trivial

theorem bind {next : α → Run β} {good' : β → Prop} (first : Sends allowed good run)
    (rest : ∀ value, good value → Sends allowed good' (next value)) :
    Sends allowed good' (run >>= next) := by
  intro state
  obtain ⟨sent, found⟩ := first state
  rcases ran : run state with ⟨error | value, middle⟩ <;> rw [ran] at sent found
  · rw [bind_error ran]
    exact ⟨sent, fun _ result => nomatch result⟩
  · rw [bind_ok ran]
    obtain ⟨sent', found'⟩ := rest value (found value rfl) middle
    exact ⟨sent.trans sent', found'⟩

/-- The second run sends its jobs even when the first one has failed. -/
theorem both {second : Run β} {good' : β → Prop} (first : Sends allowed good run)
    (other : Sends allowed good' second) :
    Sends allowed (fun values => good values.1 ∧ good' values.2) (Run.both run second) := by
  intro state
  obtain ⟨sent, found⟩ := first state
  obtain ⟨sent', found'⟩ := other (run state).2
  rw [both_apply]
  refine ⟨sent.trans sent', fun values result => ?_⟩
  obtain ⟨one, two⟩ := pair_eq_ok.1 result
  exact ⟨found _ one, found' _ two⟩

theorem join {items : List β} {branch : β → Run α}
    (h : ∀ item ∈ items, Sends allowed good (branch item)) :
    Sends allowed (fun values => ∀ value ∈ values, good value)
      (Run.join (items.map branch)) := by
  induction items with
  | nil => exact pure (List.forall_mem_nil _)
  | cons item items ih =>
      have others := ih fun item member => h item (List.mem_cons_of_mem _ member)
      exact ((h item List.mem_cons_self).both others).bind fun _ values =>
        pure (List.forall_mem_cons.2 values)

theorem generate {collaborators : Collaborators} {job : Job} (allows : allowed job) :
    Sends allowed (fun _ => True) (Run.generate collaborators job) := by
  rw [Run.generate]
  cases collaborators.generator with
  | none => exact fail
  | some generator =>
      intro state
      refine ⟨?_, fun _ _ => trivial⟩
      dsimp only
      rw [(Idle.require _ _).state_eq]
      exact .asked state fun _ same => Option.some.inj same ▸ allows

/-- A function is not the generator. -/
theorem call {name : String} {function : Function} {inputs : OrderedMap Stuff} :
    Sends allowed (fun _ => True) (Run.call name function inputs) := by
  intro state
  refine ⟨?_, fun _ _ => trivial⟩
  rw [Run.call, (Idle.require _ _).state_eq]
  exact .asked state nofun

/-- A place on the stack makes no difference to what is sent. -/
theorem framed {limit : Nat} {code : String} {context : PipeStack → Context}
    (body : Sends allowed good run) : Sends allowed good (Run.framed limit code context run) := by
  intro state
  by_cases room : state.stack.length < limit
  · obtain ⟨sent, found⟩ := body (state.enter code)
    rcases ran : run (state.enter code) with ⟨error | value, final⟩ <;> rw [ran] at sent found
    · rw [framed_error room ran]
      exact ⟨sent, fun _ result => nomatch result⟩
    · rw [framed_ok room ran]
      exact ⟨sent, found⟩
  · rw [framed_full (Nat.not_lt.1 room)]
    exact ⟨.refl state, fun _ result => nomatch result⟩

end Sends

/-- Whatever comes of it, the generator is asked once at most, and if so, with such a job. -/
def AsksOnce (allowed : Job → Prop) (run : Run α) : Prop :=
  ∀ state : RunState, (run state).2.jobs = state.jobs ∨
    ∃ job, allowed job ∧ (run state).2.jobs = state.jobs ++ [job]

namespace AsksOnce

variable {allowed : Job → Prop} {run : Run α}

theorem bind_idle {next : α → Run β} (first : AsksOnce allowed run)
    (rest : ∀ value, Idle (next value)) : AsksOnce allowed (run >>= next) := by
  intro state
  have asked := first state
  rcases ran : run state with ⟨error | value, middle⟩ <;> rw [ran] at asked
  · rwa [bind_error ran]
  · rwa [bind_ok ran, (rest value).state_eq]

/-- What comes after an idle run may rely on its value. -/
theorem idle_bind {next : α → Run β} (first : Idle run)
    (rest : ∀ value state, run state = (.ok value, state) → AsksOnce allowed (next value)) :
    AsksOnce allowed (run >>= next) := by
  intro state
  rcases ran : run state with ⟨error | value, middle⟩ <;>
    obtain rfl : middle = state := by rw [← first.state_eq state, ran]
  · rw [bind_error ran]
    exact .inl rfl
  · rw [bind_ok ran]
    exact rest value middle ran middle

theorem generate (collaborators : Collaborators) (job : Job) :
    AsksOnce (· = job) (Run.generate collaborators job) := by
  intro state
  rw [Run.generate]
  cases collaborators.generator with
  | none => exact .inl rfl
  | some generator =>
      refine .inr ⟨job, rfl, ?_⟩
      dsimp only
      rw [(Idle.require _ _).state_eq]
      exact state.jobs_append (.job job)

/-- A place on the stack makes no difference to what the generator is asked. -/
theorem framed {limit : Nat} {code : String} {context : PipeStack → Context}
    (body : AsksOnce allowed run) : AsksOnce allowed (Run.framed limit code context run) := by
  intro state
  by_cases room : state.stack.length < limit
  · have asked := body (state.enter code)
    rcases ran : run (state.enter code) with ⟨error | value, final⟩ <;> rw [ran] at asked
    · rwa [framed_error room ran]
    · rwa [framed_ok room ran]
  · rw [framed_full (Nat.not_lt.1 room)]
    exact .inl rfl

end AsksOnce

end Run

namespace Library

open Run

variable {library : Library} {pipe : Pipe} {memory : WorkingMemory} {params : Params}
variable {output : Option String}

/-- The generator is asked for an answer only. -/
theorem asksOnce_obtain {signature : Signature} {many : Bool} {job : Job} :
    AsksOnce (· = job) (library.obtain signature output many job) := by
  refine (AsksOnce.generate library.collaborators job).bind_idle fun content => ?_
  exact (Idle.require _ _).bind fun _ => .require _ _

/-- A run of a pipe that makes content asks for nothing but what the work of the pipe asks for. -/
theorem asksOnce_run_of_work {allowed : Job → Prop} {work : Run Stuff}
    (known : library.work? pipe memory params output = some work) (asks : AsksOnce allowed work) :
    AsksOnce allowed (library.run pipe memory params output) := by
  rw [run_eq_framed]
  refine .framed ?_
  refine .idle_bind (.require _ _) fun _ _ _ => ?_
  rw [runBody_of_work known]
  refine (asks.bind_idle fun _ => .pure _).bind_idle fun product => ?_
  refine (Idle.require _ _).bind fun _ => ?_
  rw [conclude_eq]
  exact .pure _

end Library

end Conduit
