import Conduit.Proofs.BranchJoin
import Conduit.Proofs.Except
import Conduit.Proofs.Run.Depth

/-!
# The order of branches

A parallel that makes a record of the results of its branches may run them in any order, if each
result has a name of its own. The record has its fields sorted, and the results that are kept are
written to different names. So it makes no difference in which order they come, except to the order
in which a memory holds its stuffs, which nobody is shown.

Whether the whole succeeds does not depend on the order either. All branches are run in any case,
each on a copy of the same memory, and each gives back the place on the stack that it has taken.
What does depend on the order is which failure is the first one.

The same holds if parallels are rearranged all over a library: every run in the one library succeeds
exactly if it does so in the other one, and then both come to the same.
-/

namespace Conduit

namespace Run

variable {α β ι : Type} {comparison : Comparison} {related : α → β → Prop} {items items' : List ι}
variable {branch : ι → Run α} {branch' : ι → Run β}

theorem join_cons_apply (run : Run α) (runs : List (Run α)) (state : RunState) :
    Run.join (run :: runs) state =
      ((pair (run state).1 (Run.join runs (run state).2).1).map fun values =>
        values.1 :: values.2, (Run.join runs (run state).2).2) := by
  rw [Run.join, bind_apply, both_apply]
  cases pair (run state).1 (Run.join runs (run state).2).1 <;> rfl

/-- Where all branches succeed, each has done so on the way. -/
theorem join_eq_ok {state after : RunState} {values : List α}
    (advancing : ∀ item, Advancing (branch item))
    (ran : Run.join (items.map branch) state = (.ok values, after)) :
    List.Forall₂ (fun item value => ∃ start rest, state.Advances start ∧
      branch item start = (.ok value, rest) ∧ rest.Advances after) items values := by
  induction items generalizing state values with
  | nil =>
      cases ran
      exact .nil
  | cons item items ih =>
      rw [List.map_cons, join_cons_apply] at ran
      obtain ⟨outcome, rfl⟩ := Prod.mk.inj ran
      obtain ⟨⟨value, others⟩, paired, rfl⟩ := except_map_eq_ok.1 outcome
      obtain ⟨first, rest⟩ := pair_eq_ok.1 paired
      have reached := advancing item state
      have joining : Advancing (Run.join (items.map branch)) := .join advancing
      refine .cons ⟨state, _, .refl state, Prod.ext first rfl, joining _⟩ ?_
      refine (ih (Prod.ext rest rfl)).imp fun item value => ?_
      rintro ⟨start, after, before, ran, rest⟩
      exact ⟨start, after, reached.trans before, ran, rest⟩

namespace Tracks

/-- Branches that have succeeded, each for itself, are followed by branches that are run in turn. -/
theorem follows_join {start start' after : RunState} {values : List α}
    (calm : ∀ before after, comparison.Calm before after)
    (tracks : ∀ item ∈ items, Tracks comparison related (branch item) (branch' item))
    (advancing' : ∀ item, Advancing (branch' item))
    (each : List.Forall₂ (fun item value => ∃ begin rest, start.Advances begin ∧
      branch item begin = (.ok value, rest) ∧ rest.Advances after) items values)
    (started : comparison.Start start start') :
    comparison.Follows (List.Forall₂ related values) start after
      (Run.join (items.map branch') start').1 := by
  induction each generalizing start' with
  | nil => exact ⟨.nil, calm _ _⟩
  | @cons item value items values one _ ih =>
      obtain ⟨begin, rest, reached, ran, later⟩ := one
      have followed := tracks item List.mem_cons_self begin start' rest value
        (comparison.start started reached (.refl start')) ran
      have started' := comparison.start started (.refl start) (advancing' item start')
      have others := ih (fun item member => tracks item (List.mem_cons_of_mem _ member)) started'
      rw [List.map_cons, join_cons_apply]
      cases outcome : (branch' item start').1 with
      | error error =>
          rw [outcome] at followed
          exact comparison.excuse later followed
      | ok value' =>
          rw [outcome] at followed
          cases joined : (Run.join (items.map branch') (branch' item start').2).1 with
          | error error =>
              rw [joined] at others
              exact others
          | ok values' =>
              rw [joined] at others
              exact ⟨.cons followed.1 others.1, calm _ _⟩

/-- Branches may be run in another order. -/
theorem join_perm (calm : ∀ before after, comparison.Calm before after)
    (perm : items.Perm items')
    (tracks : ∀ item ∈ items, Tracks comparison related (branch item) (branch' item))
    (advancing : ∀ item, Advancing (branch item))
    (advancing' : ∀ item, Advancing (branch' item)) :
    Tracks comparison (fun values values' => ∃ between, values.Perm between ∧
        List.Forall₂ related between values')
      (Run.join (items.map branch)) (Run.join (items'.map branch')) := by
  intro start start' after values started ran
  obtain ⟨between, each, moved⟩ := List.perm_comp_forall₂ perm.symm (join_eq_ok advancing ran)
  have followed := follows_join calm (fun item member => tracks item (perm.mem_iff.2 member))
    advancing' each started
  cases outcome : (Run.join (items'.map branch') start').1 with
  | error error =>
      rw [outcome] at followed
      exact followed
  | ok values' =>
      rw [outcome] at followed
      exact ⟨⟨between, moved.symm, followed.1⟩, followed.2⟩

end Tracks

end Run

/-- The second parallel has the branches of the first one in another order. Both make a record of
their results, which have distinct names. -/
structure Parallel.Rearranges (parallel other : Parallel) : Prop where
  branches : parallel.branches.Perm other.branches
  keepsEach : other.keepsEach = parallel.keepsEach
  combined : other.combined = parallel.combined
  record : parallel.combined.isSome = true
  distinct : (parallel.branches.map (·.result)).Nodup

theorem Parallel.Rearranges.symm {parallel other : Parallel} (h : parallel.Rearranges other) :
    other.Rearranges parallel where
  branches := h.branches.symm
  keepsEach := h.keepsEach.symm
  combined := h.combined.symm
  record := by rw [h.combined, h.record]
  distinct := (h.branches.map _).nodup_iff.1 h.distinct

/-- The bodies of the two pipes are parallels with the same branches in another order. -/
def Pipe.Rearranges (pipe other : Pipe) : Prop :=
  other.signature = pipe.signature ∧ ∃ parallel parallel', pipe.body = .parallel parallel ∧
    other.body = .parallel parallel' ∧ parallel.Rearranges parallel'

theorem Pipe.Rearranges.symm {pipe other : Pipe} (h : pipe.Rearranges other) :
    other.Rearranges pipe := by
  obtain ⟨signature, parallel, parallel', body, body', rearranges⟩ := h
  exact ⟨signature.symm, parallel', parallel, body', body, rearranges.symm⟩

namespace Sample

def letters : Concept := ⟨"demo", "Mail", "Letters of a day", "Mail", none⟩

/-- Have a letter written, all lines stamped, and another letter written. -/
def collect : Pipe where
  signature :=
    { domain := "demo", code := "collect", definition := "Collect the mail"
      inputs := .ofList [("lines", ⟨text, some (.flag true)⟩)], output := letters
      multiplicity := none }
  body := .parallel ⟨⟨"write", "letter", none, none⟩,
    [⟨"stamp", "stamped", none, some eachLine⟩, ⟨"write", "copy", none, none⟩], true, some letters⟩

/-- Do the same in another order. -/
def collectBackwards : Pipe where
  signature := collect.signature
  body := .parallel ⟨⟨"write", "copy", none, none⟩,
    [⟨"stamp", "stamped", none, some eachLine⟩, ⟨"write", "letter", none, none⟩], true,
    some letters⟩

/-- The office with this pipe as well. -/
def officeWith (pipe : Pipe) : Library :=
  { openOffice with pipes := pipe :: openOffice.pipes }

end Sample

/-- Two libraries are the same but for parallels whose branches are in another order. They may be
the same altogether. -/
structure Library.Rearranges (library other : Library) : Prop where
  vocabulary : other.vocabulary = library.vocabulary
  collaborators : other.collaborators = library.collaborators
  find? : ∀ code, Option.Rel (fun pipe pipe' => pipe' = pipe ∨ pipe.Rearranges pipe')
    (library.find? code) (other.find? code)

namespace Library

open Run

namespace Rearranges

variable {library other : Library}

/-- Pipes may be rearranged where they stand. -/
theorem of_forall₂ (vocabulary : other.vocabulary = library.vocabulary)
    (collaborators : other.collaborators = library.collaborators)
    (pipes : List.Forall₂ (fun pipe pipe' => pipe' = pipe ∨ pipe.Rearranges pipe')
      library.pipes other.pipes) : library.Rearranges other := by
  refine ⟨vocabulary, collaborators, fun code => ?_⟩
  rw [Library.find?, Library.find?]
  generalize library.pipes = here, other.pipes = there at pipes
  induction pipes with
  | nil => exact .none
  | @cons pipe pipe' _ _ same _ ih =>
      have code' : pipe'.code = pipe.code := by
        rcases same with rfl | ⟨signature, -⟩
        · rfl
        · rw [Pipe.code, Pipe.code, signature]
      rw [List.find?_cons, List.find?_cons, code']
      cases pipe.code == code with
      | true => exact .some same
      | false => exact ih

theorem symm (h : library.Rearranges other) : other.Rearranges library := by
  refine ⟨h.vocabulary.symm, h.collaborators.symm, fun code => ?_⟩
  have related := h.find? code
  generalize library.find? code = found, other.find? code = found' at related
  cases related with
  | none => exact .none
  | some arranged => exact .some (arranged.imp Eq.symm Pipe.Rearranges.symm)

end Rearranges

variable {library library' : Library} {runner runner' : Runner} {signature : Signature}
variable {memory memory' : WorkingMemory} {params params' : Params} {output : Option String}
variable {comparison : Comparison}

/-- A parallel that makes a record runs all branches, and then makes the record of the results. -/
theorem runParallel_record {parallel : Parallel} {concept : Concept}
    (record : parallel.combined = some concept) :
    library.runParallel runner signature parallel memory params output =
      (do
        Run.require id (library.checkBranches parallel.branches)
        let results ← Run.join
          (parallel.branches.map (library.runBranch runner memory params))
        let stuff ← Run.require Cause.concept
          (Stuff.make (signature.resultName output) concept
            (.structured concept.className (combine results)))
        return ⟨if parallel.keepsEach then keepResults memory results else memory, stuff⟩) := by
  rw [runParallel]
  refine congrArg (Run.require id _ >>= ·) (funext fun _ => funext fun state => ?_)
  have branches : parallel.branches = parallel.first :: parallel.rest := rfl
  simp only [branches, List.map_cons, Run.join, bind_apply, gatherResults, record]
  cases Run.both (library.runBranch runner memory params parallel.first)
    (Run.join (parallel.rest.map (library.runBranch runner memory params))) state with
  | mk outcome final => cases outcome <;> rfl

/-- Where all branches succeed, the results have the names that the branches give them. -/
theorem names_of_join {branches : List Branch} {results : List (String × Stuff)}
    {state after : RunState} (advancing : AdvancesAll runner)
    (ran : Run.join (branches.map (library.runBranch runner memory params)) state =
      (.ok results, after)) : results.map Prod.fst = branches.map (·.result) := by
  have each := join_eq_ok (fun _ => advancing_runBranch advancing) ran
  rw [← List.forall₂_eq_eq_eq, List.forall₂_map_left_iff, List.forall₂_map_right_iff]
  exact each.flip.imp fun _ _ ⟨_, _, _, ran, _⟩ => runBranch_name ran

/-- The record of results with distinct names does not depend on their order. -/
theorem combine_eq_of_perm {results results' : List (String × Stuff)}
    (distinct : (results.map Prod.fst).Nodup) (perm : results.Perm results') :
    combine results' = combine results := by
  refine Json.ofFields_eq_of_perm ?_ (perm.map _)
  rw [List.map_map]
  exact distinct

section Parallel

variable {parallel parallel' : Parallel} (rearranges : parallel.Rearranges parallel')
variable (calm : ∀ before after, comparison.Calm before after)
variable (advancing : AdvancesAll runner) (advancing' : AdvancesAll runner')
variable (serves : ∀ branch ∈ parallel.branches, ServesBoth library library' comparison .upToOrder
  runner runner' params params' branch.pipe branch.multiplicity)
variable (alike : memory.Reordered memory')
include rearranges calm advancing advancing' serves alike

/-- The branches come to the same results, in the order in which they stand. -/
theorem tracks_join_rearranged :
    Tracks comparison
      (fun results results' => (results.map Prod.fst).Nodup ∧ results.Perm results')
      (Run.join (parallel.branches.map (library.runBranch runner memory params)))
      (Run.join (parallel'.branches.map (library'.runBranch runner' memory' params'))) := by
  have ran := Tracks.join_perm calm rearranges.branches
    (fun branch member => tracks_runBranch (serves branch member) alike)
    (fun _ => advancing_runBranch advancing) fun _ => advancing_runBranch advancing'
  refine ran.imp ?_
  rintro _ _ results results' ran ⟨between, perm, same⟩
  obtain rfl : between = results' := by
    rw [← List.forall₂_eq_eq_eq]
    exact same.imp fun _ _ one => Prod.ext one.1.symm one.2
  rw [names_of_join advancing ran]
  exact ⟨rearranges.distinct, perm⟩

theorem tracks_runParallel_rearranged :
    Tracks comparison Likeness.upToOrder.Products
      (library.runParallel runner signature parallel memory params output)
      (library'.runParallel runner' signature parallel' memory' params' output) := by
  obtain ⟨concept, record⟩ := Option.isSome_iff_exists.1 rearranges.record
  rw [runParallel_record record, runParallel_record (rearranges.combined.trans record)]
  refine .require_bind fun _ checked => ⟨(), ?checks, ?runs⟩
  case checks =>
    have checked' := checkBranches_eq_ok.1 (checkBranches_of_serves serves checked)
    exact checkBranches_eq_ok.2 fun branch member =>
      checked' branch (rearranges.branches.mem_iff.2 member)
  case runs =>
    refine (tracks_join_rearranged rearranges calm advancing advancing' serves alike).bind
      (.join fun _ => advancing_runBranch advancing) (.join fun _ => advancing_runBranch advancing')
      (fun _ => (Advancing.require _ _).bind fun _ => .pure _) ?_
    rintro results results' ⟨distinct, perm⟩
    rw [combine_eq_of_perm distinct perm, rearranges.keepsEach]
    refine .require_bind fun stuff made => ⟨stuff, made, .pure ⟨?_, rfl⟩⟩
    dsimp only
    split
    · exact (WorkingMemory.keepResults_perm distinct perm).trans (alike.keepResults _)
    · exact alike

end Parallel

/-- The induction is on the room that is left for the first run. Callees may be rearranged as
well. -/
theorem tracks_rearranged (steady : library.collaborators.Steady)
    (arranged : library.Rearranges library') (params : Params) (room : Nat) {pipe pipe' : Pipe}
    (same : pipe' = pipe ∨ pipe.Rearranges pipe') {memory memory' : WorkingMemory}
    (alike : memory.Reordered memory') (output : Option String) :
    Tracks (.higher params.limit 0 room) Likeness.upToOrder.Outputs
      (library.run pipe memory params output) (library'.run pipe' memory' params output) := by
  have advancing := library.advancing_run
  have advancing' := library'.advancing_run
  have signature : ∀ {pipe pipe' : Pipe}, pipe' = pipe ∨ pipe.Rearranges pipe' →
      pipe'.signature = pipe.signature := by
    rintro pipe pipe' (rfl | rearranges)
    · rfl
    · exact rearranges.1
  induction room generalizing params pipe pipe' memory memory' output with
  | zero =>
      rw [run_eq_framed, run_eq_framed, Pipe.code, Pipe.code, signature same]
      exact .framed_higher (advancing_execute advancing) nofun
  | succ room ih =>
      rw [run_eq_framed, run_eq_framed, Pipe.code, Pipe.code, signature same]
      refine .framed_higher (advancing_execute advancing) fun _ => ?_
      have serves : ∀ code multiplicity, ServesBoth library library' (.higher params.limit 0 room)
          .upToOrder library.run library'.run params params code multiplicity := by
        intro code multiplicity callee found
        have related := arranged.find? code
        rw [found] at related
        generalize library'.find? code = found' at related ⊢
        cases related with
        | @some _ callee' same =>
            have runs : ∀ {memory memory'} output, Likeness.upToOrder.Memories memory memory' →
                Tracks (.higher params.limit 0 room) Likeness.upToOrder.Outputs
                  (library.run callee memory (params.forCallee multiplicity) output)
                  (library'.run callee' memory' (params.forCallee multiplicity) output) :=
              fun output alike => ih (params.forCallee multiplicity) same alike output
            exact ⟨callee', rfl, signature same, runs, fun batch result alike =>
              tracks_fanOut Likeness.upToOrder_looksSame (signature same) advancing advancing'
                (runs none) alike⟩
      rcases same with rfl | ⟨signature, parallel, parallel', body, body', rearranges⟩
      · exact tracks_execute_alike steady Likeness.upToOrder_looksSame allowsRest_higher
          arranged.vocabulary arranged.collaborators advancing advancing' serves alike
      · refine tracks_execute_of_body advancing advancing' signature alike ?_
        simp only [runBody, body, body', signature]
        exact tracks_runParallel_rearranged rearranges (fun _ _ => trivial) advancing advancing'
          (fun branch _ => serves branch.pipe branch.multiplicity) alike

/-- What succeeds in the one library succeeds in the other one. -/
theorem run_of_rearranged {pipe pipe' : Pipe} {state final : RunState} {result : Output}
    (steady : library.collaborators.Steady) (arranged : library.Rearranges library')
    (same : pipe' = pipe ∨ pipe.Rearranges pipe') (alike : memory.Reordered memory')
    (ran : library.run pipe memory params output state = (.ok result, final)) :
    ∃ result' final', library'.run pipe' memory' params output state = (.ok result', final') ∧
      result'.main = result.main ∧ result.memory.Reordered result'.memory := by
  have followed := tracks_rearranged steady arranged params params.limit same alike output state
    state final result ⟨Nat.le_refl _, Nat.le_add_right _ _⟩ ran
  rcases ran' : library'.run pipe' memory' params output state with ⟨error | result', final'⟩ <;>
    rw [ran'] at followed
  · exact absurd followed.1 (Nat.lt_irrefl 0)
  · obtain ⟨⟨memories, main⟩, -⟩ := followed
    exact ⟨result', final', rfl, main.symm, memories⟩

end Library

end Conduit
