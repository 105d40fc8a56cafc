import Conduit.OrderedMap
import Conduit.Text.SortedNames
import Conduit.Memory.Stuff

/-!
# Working memory

A working memory keeps stuffs in slots, in order of arrival, and aliases that lead
from further names to slots. A name is looked up among the slots first. The
special name `main_stuff` leads to the latest result.
-/

namespace Conduit

/-- What can be wrong with a name in a memory. -/
inductive MemoryError where
  | stuffNotFound (name : String)
  | aliasTargetMissing (name target : String)
  | notAList (name className : String)
  | noMainStuff
  deriving DecidableEq, Repr

/-- The wording of a memory error. -/
def MemoryError.message : MemoryError → String
  | stuffNotFound name => s!"Stuff '{name}' not found in working memory"
  | aliasTargetMissing name target => s!"Alias '{name}' points to missing stuff '{target}'"
  | notAList name className => s!"Stuff '{name}' is not a list (found '{className}')"
  | noMainStuff => "Working memory has no main stuff"

/-- The stuffs of a run and the aliases of their names. -/
structure WorkingMemory where
  slots : OrderedMap Stuff
  aliases : OrderedMap String

namespace WorkingMemory

/-- The name that leads to the latest result. -/
def mainName : String := "main_stuff"

/-- The memory without stuffs. -/
def empty : WorkingMemory := ⟨∅, ∅⟩

instance : Inhabited WorkingMemory := ⟨empty⟩

instance : BEq WorkingMemory := ⟨fun a b => a.slots == b.slots && a.aliases == b.aliases⟩

/-- Store a stuff in a slot, under the slot's name; an alias of that name is gone. -/
def store (memory : WorkingMemory) (name : String) (stuff : Stuff) : WorkingMemory :=
  { slots := memory.slots.insert name (stuff.rename name)
    aliases := memory.aliases.erase name }

/-- Store stuffs one after the other, each in the slot of its own name. -/
def ofStuffs (stuffs : List Stuff) : WorkingMemory :=
  stuffs.foldl (fun memory stuff => memory.store stuff.name stuff) empty

/-- Store a stuff and let the main name lead to it. -/
def storeMain (memory : WorkingMemory) (name : String) (stuff : Stuff) : WorkingMemory :=
  let memory := memory.store name stuff
  if name = mainName then memory
  else { memory with aliases := memory.aliases.insert mainName name }

/-- Let an alias lead to a slot that is there. -/
def addAlias (memory : WorkingMemory) (name target : String) :
    Except MemoryError WorkingMemory :=
  if !memory.slots.contains target then .error (.aliasTargetMissing name target)
  else if name = target then .ok memory
  else .ok { memory with aliases := memory.aliases.insert name target }

/-- The stuff that a name leads to. -/
def find? (memory : WorkingMemory) (name : String) : Option Stuff :=
  match memory.slots.get? name with
  | some stuff => some stuff
  | none => (memory.aliases.get? name).bind memory.slots.get?

/-- The stuff that a name has to lead to. -/
def get (memory : WorkingMemory) (name : String) : Except MemoryError Stuff :=
  match memory.find? name with
  | some stuff => .ok stuff
  | none => .error (.stuffNotFound name)

/-- The latest result. -/
def getMain (memory : WorkingMemory) : Except MemoryError Stuff :=
  match memory.find? mainName with
  | some stuff => .ok stuff
  | none => .error .noMainStuff

/-- The stuff that a name leads to and its items, for it has to be a list. -/
def getList (memory : WorkingMemory) (name : String) :
    Except MemoryError (Stuff × List Content) := do
  let stuff ← memory.get name
  match stuff.content.items? with
  | some items => return (stuff, items)
  | none => throw (.notAList name stuff.content.className)

/-- Does the name lead to a stuff? -/
def contains (memory : WorkingMemory) (name : String) : Bool :=
  (memory.find? name).isSome

/-- Empty a slot, and drop the aliases that lead to it. -/
def remove (memory : WorkingMemory) (name : String) : WorkingMemory :=
  if memory.slots.contains name then
    { slots := memory.slots.erase name
      aliases := memory.aliases.filter fun _ target => target ≠ name }
  else memory

/-- The names that lead to no stuff, in order. -/
def missing (memory : WorkingMemory) (names : List String) : List String :=
  Text.sortedNames (names.filter (!memory.contains ·))

/-- The number of slots. -/
def size (memory : WorkingMemory) : Nat :=
  memory.slots.size

/-- The fields of the slots: their stuffs' views, by ascending name. -/
def slotViews (memory : WorkingMemory) : List (String × Json) :=
  memory.slots.entries.foldl
    (fun fields entry => Json.insertField entry.1 entry.2.content.view fields) []

/-- The view of the memory for templates and expressions: every name with the view of the stuff
that it leads to. -/
def view (memory : WorkingMemory) : Json :=
  .object (memory.aliases.entries.foldl (fun fields entry =>
    match memory.slots.get? entry.2 with
    | some stuff =>
      if (fields.lookup entry.1).isSome then fields
      else Json.insertField entry.1 stuff.content.view fields
    | none => fields) memory.slotViews)

end WorkingMemory

end Conduit
