import Conduit.OrderedMap
import Conduit.Schema.ClassName
import Conduit.Schema.FieldType
import Conduit.Concept.Error

/-!
# The registry of classes

A registry knows the fields of every class. It begins with the classes of the
native concepts; registering a class again replaces its fields.
-/

namespace Conduit

/-- The fields of a class, in order. -/
abbrev ClassFields := OrderedMap FieldType

/-- The known classes and their fields. -/
structure Registry where
  classes : OrderedMap ClassFields

namespace Registry

/-- The classes of the native concepts. -/
def nativeClasses : List (String × List (String × FieldType)) :=
  [(ClassName.text, [("text", .text)]),
   (ClassName.number, [("number", .number)]),
   (ClassName.image, [("url", .text), ("caption", .optional .text)]),
   (ClassName.pdf, [("url", .text)]),
   (ClassName.textAndImages,
     [("text", .optional (.record ClassName.text)), ("images", .list .image)]),
   (ClassName.page,
     [("text_and_images", .record ClassName.textAndImages), ("page_view", .optional .image)]),
   (ClassName.html, [("inner_html", .text), ("css_class", .text)]),
   (ClassName.anything, []),
   (ClassName.dynamic, [])]

/-- Give a class these fields. -/
def register (registry : Registry) (className : String) (fields : ClassFields) : Registry :=
  ⟨registry.classes.insert className fields⟩

/-- The registry that knows the native classes only. -/
def initial : Registry :=
  nativeClasses.foldl (fun registry entry => registry.register entry.1 (.ofList entry.2)) ⟨∅⟩

instance : Inhabited Registry := ⟨initial⟩

/-- The fields of a class, if it is registered. -/
def fields? (registry : Registry) (className : String) : Option ClassFields :=
  registry.classes.get? className

/-- Is the class registered? -/
def contains (registry : Registry) (className : String) : Bool :=
  registry.classes.contains className

/-- The fields of a class that has to be registered. -/
def fields (registry : Registry) (className : String) : Except ConceptError ClassFields :=
  match registry.fields? className with
  | some fields => .ok fields
  | none => .error (.classNotFound className)

/-- The registered classes that do not occur on a path; a walk that avoids circles uses them up. -/
def remaining (registry : Registry) (path : List String) : List String :=
  registry.classes.keys.filter (!path.contains ·)

theorem remaining_lt {registry : Registry} {path : List String} {className : String}
    {fields : ClassFields} (fresh : className ∉ path)
    (h : registry.fields? className = some fields) :
    (registry.remaining (path ++ [className])).length < (registry.remaining path).length := by
  have known : className ∈ registry.classes.keys := OrderedMap.mem_keys_of_get? h
  simp only [remaining, ← List.countP_eq_length_filter]
  generalize registry.classes.keys = keys at known
  induction keys with
  | nil => simp at known
  | cons key keys ih =>
    have shrinks : keys.countP (!(path ++ [className]).contains ·)
        ≤ keys.countP (!path.contains ·) :=
      List.countP_mono_left fun x _ hx => by simp at hx ⊢; exact hx.1
    by_cases same : key = className
    · subst same
      simp only [List.countP_cons]
      simp [fresh] at shrinks ⊢
      omega
    · have := ih ((List.mem_cons.1 known).resolve_left fun h => same h.symm)
      simp only [List.countP_cons]
      by_cases on : key ∈ path <;> simp [on, same] at this ⊢ <;> omega

end Registry

end Conduit
