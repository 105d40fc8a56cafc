/-!
# Sorted names

Where a set of names is shown, the names stand in the order of their code points,
each once.
-/

namespace Conduit.Text

/-- Put a name in its place among sorted names, unless it is there. -/
def insertName (name : String) : List String → List String
  | [] => [name]
  | first :: rest =>
    if name < first then name :: first :: rest
    else if name = first then first :: rest
    else first :: insertName name rest

/-- The names in order, each once. -/
def sortedNames (names : List String) : List String :=
  names.foldr insertName []

theorem mem_insertName {name x : String} {names : List String} :
    x ∈ insertName name names ↔ x = name ∨ x ∈ names := by
  induction names with
  | nil => simp [insertName]
  | cons first rest ih =>
    unfold insertName
    split
    · simp
    · split
      · rename_i same
        simp [same]
      · simp [ih, or_left_comm]

theorem mem_sortedNames {x : String} {names : List String} : x ∈ sortedNames names ↔ x ∈ names := by
  induction names with
  | nil => simp [sortedNames]
  | cons name rest ih =>
    simp only [sortedNames, List.foldr_cons, mem_insertName, List.mem_cons] at *
    simp [ih]

end Conduit.Text
