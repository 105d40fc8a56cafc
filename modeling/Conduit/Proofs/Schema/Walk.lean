import Mathlib.Data.List.Chain
import Mathlib.Data.List.Nodup
import Mathlib.Logic.Relation

/-!
# Walks that turn back

Both the search for an image and the making up of a record go from class to class and keep the path
that they have taken. They go on from a class that is not on the path, in all directions, and turn
back at one that is. Along such walks they come to every class that can be reached at all, and to
every circle.

To see the first of this, follow the edges that lead to a place. Where a walk along them has to turn
back, there is another walk that was shorter when it came to the same place.
-/

namespace Conduit

open Relation

variable {α : Type}

/-- A walk along edges has taken a path from the start to a place. It has gone on only from places
that it had not been to before. -/
inductive Walk (edge : α → α → Prop) (start : α) : List α → α → Prop
  | here : Walk edge start [] start
  | further {path : List α} {place next : α} (walk : Walk edge start path place)
      (fresh : place ∉ path) (step : edge place next) : Walk edge start (path ++ [place]) next

/-- Steps along edges from the start to a place that has been passed before. -/
structure Circle (edge : α → α → Prop) (start : α) (steps : List α) : Prop where
  starts : steps.head? = some start
  follows : steps.IsChain edge
  returns : ∃ path place, steps = path ++ [place] ∧ place ∈ path

namespace Walk

variable {edge : α → α → Prop} {start place other : α} {path : List α}

theorem reaches (walk : Walk edge start path place) : ReflTransGen edge start place := by
  induction walk with
  | here => exact .refl
  | further _ _ step ih => exact ih.tail step

theorem nodup (walk : Walk edge start path place) : path.Nodup := by
  induction walk with
  | here => exact List.nodup_nil
  | further _ fresh _ ih => exact List.nodup_append_comm.1 (List.nodup_cons.2 ⟨fresh, ih⟩)

/-- To everything on its path the walk has come for a first time, and it has gone on from there. -/
theorem passed (walk : Walk edge start path place) (onPath : other ∈ path) :
    (∃ earlier, Walk edge start earlier other ∧ other ∉ earlier) ∧ TransGen edge other place := by
  induction walk with
  | here => cases onPath
  | @further path place next walk fresh step ih =>
      rcases List.mem_append.1 onPath with before | here
      · obtain ⟨first, onward⟩ := ih before
        exact ⟨first, onward.tail step⟩
      · obtain rfl := List.mem_singleton.1 here
        exact ⟨⟨path, walk, fresh⟩, .single step⟩

/-- What is on the path has somewhere to go on to. -/
theorem exists_step (walk : Walk edge start path place) (onPath : other ∈ path) :
    ∃ next, edge other next := by
  obtain ⟨next, step, -⟩ := TransGen.head'_iff.1 (walk.passed onPath).2
  exact ⟨next, step⟩

/-- Some walk comes for the first time to whatever can be reached. -/
theorem exists_of_reaches (leads : ReflTransGen edge start place) :
    ∃ path, Walk edge start path place ∧ place ∉ path := by
  induction leads with
  | refl => exact ⟨[], here, List.not_mem_nil⟩
  | @tail place next _ step ih =>
      obtain ⟨path, walk, fresh⟩ := ih
      have walk' := walk.further fresh step
      by_cases onPath : next ∈ path ++ [place]
      · exact (walk'.passed onPath).1
      · exact ⟨_, walk', onPath⟩

/-- A walk that goes on along a circle comes to a place where it has to turn back. -/
theorem exists_turn (leads : ReflTransGen edge start place) (circle : TransGen edge place place) :
    ∃ path turn, Walk edge start path turn ∧ turn ∈ path := by
  by_contra none
  have fresh : ∀ {path turn}, Walk edge start path turn → turn ∉ path :=
    fun walk onPath => none ⟨_, _, walk, onPath⟩
  obtain ⟨path, walk, -⟩ := exists_of_reaches leads
  have onward : ∀ {other}, TransGen edge place other →
      ∃ longer, Walk edge start longer other ∧ place ∈ longer := by
    intro other steps
    induction steps with
    | single step =>
        have passed : place ∈ path ++ [place] := List.mem_append_right _ (List.mem_singleton_self _)
        exact ⟨_, walk.further (fresh walk) step, passed⟩
    | tail _ step ih =>
        obtain ⟨longer, walk', passed⟩ := ih
        exact ⟨_, walk'.further (fresh walk') step, List.mem_append_left _ passed⟩
  obtain ⟨longer, walk', passed⟩ := onward circle
  exact fresh walk' passed

theorem head? (walk : Walk edge start path place) : (path ++ [place]).head? = some start := by
  induction walk with
  | here => rfl
  | further _ _ _ ih => rw [List.head?_append, ih, Option.some_or]

theorem isChain (walk : Walk edge start path place) : (path ++ [place]).IsChain edge := by
  induction walk with
  | here => exact .singleton _
  | further _ _ step ih =>
      refine ih.append (.singleton _) fun last isLast first isFirst => ?_
      rw [List.getLast?_concat] at isLast
      cases isLast
      cases isFirst
      exact step

/-- Where a walk turns back, it has closed a circle. -/
theorem circle (walk : Walk edge start path place) (onPath : place ∈ path) :
    Circle edge start (path ++ [place]) :=
  ⟨walk.head?, walk.isChain, path, place, rfl, onPath⟩

end Walk

end Conduit
