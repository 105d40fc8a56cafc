import Conduit.Engine
import Conduit.Bundle.Basic

/-!
# A small library

One pipe shouts a line, another has it shout every line of a list, and a third one does both
for a report. The pipes of an office have lines written by a model and stamped by a function, one
after the other, side by side, or one for every line of a list. General statements about runs are
shown at work on these pipes.
-/

namespace Conduit.Sample

def text : Concept := .ofNative .text

/-- Shout a line. The renderer gives back the template, whatever the line is. -/
def shout : Pipe where
  signature :=
    { domain := "demo", code := "shout", definition := "Shout a line"
      inputs := .ofList [("line", ⟨text, none⟩)], output := text, multiplicity := none }
  body := .compose "HEY"

def shoutAll : Pipe where
  signature :=
    { domain := "demo", code := "shout_all", definition := "Shout all lines"
      inputs := .ofList [("lines", ⟨text, some (.flag true)⟩)]
      output := text, multiplicity := some (.flag true) }
  body := .batch "shout" ⟨"lines", "line"⟩

/-- Shout all lines, and then the title. -/
def report : Pipe where
  signature :=
    { domain := "demo", code := "report", definition := "Shout a report"
      inputs := .ofList [("line", ⟨text, none⟩), ("lines", ⟨text, some (.flag true)⟩)]
      output := text, multiplicity := none }
  body := .sequence ⟨⟨"shout_all", some "loud", none, none⟩, [⟨"shout", none, none, none⟩]⟩

def write : Pipe where
  signature :=
    { domain := "demo", code := "write", definition := "Write a line"
      inputs := ∅, output := text, multiplicity := none }
  body := .prompt ⟨"Write a line", none⟩

def stamp : Pipe where
  signature :=
    { domain := "demo", code := "stamp", definition := "Stamp a line"
      inputs := .ofList [("line", ⟨text, none⟩)], output := text, multiplicity := none }
  body := .call "stamp"

/-- Have a line written and stamped. -/
def post : Pipe where
  signature :=
    { domain := "demo", code := "post", definition := "Post a line"
      inputs := ∅, output := text, multiplicity := none }
  body := .sequence ⟨⟨"write", some "line", none, none⟩, [⟨"stamp", none, none, none⟩]⟩

/-- Have a line written, one stamped, and another one written. -/
def desk : Parallel :=
  ⟨⟨"write", "letter", none, none⟩,
    [⟨"stamp", "stamped", none, none⟩, ⟨"write", "copy", none, none⟩], true, none⟩

/-- Do the work of the desk side by side. -/
def serve : Pipe where
  signature :=
    { domain := "demo", code := "serve", definition := "Serve a customer"
      inputs := .ofList [("line", ⟨text, none⟩)], output := text, multiplicity := none }
  body := .parallel desk

/-- The lines of a list. -/
def eachLine : Batch := ⟨"lines", "line"⟩

def stampAll : Pipe where
  signature :=
    { domain := "demo", code := "stamp_all", definition := "Stamp all lines"
      inputs := .ofList [("lines", ⟨text, some (.flag true)⟩)]
      output := text, multiplicity := some (.flag true) }
  body := .batch "stamp" eachLine

/-- Have every line of a list stamped in one step. -/
def stampStep : Step := ⟨"stamp", some "stamped", none, some eachLine⟩

def file : Pipe where
  signature :=
    { domain := "demo", code := "file", definition := "File all lines"
      inputs := .ofList [("lines", ⟨text, some (.flag true)⟩)]
      output := text, multiplicity := some (.flag true) }
  body := .sequence ⟨stampStep, []⟩

/-- Call oneself. -/
def again : Pipe where
  signature :=
    { domain := "demo", code := "again", definition := "Do it again"
      inputs := ∅, output := text, multiplicity := none }
  body := .sequence ⟨⟨"again", none, none, none⟩, []⟩

/-- A renderer that looks at nothing but the template, and no other collaborator. -/
def collaborators : Collaborators :=
  ⟨none, some fun template _ => .ok template, none, .empty⟩

/-- A renderer that whispers whatever the template is, and no other collaborator. -/
def whisperers : Collaborators :=
  ⟨none, some fun _ _ => .ok "hey", none, .empty⟩

/-- The pipes that ask others, with this generator and this function. -/
def office (generator : Option Generator) (function : Function) : Library :=
  ⟨.initial, [write, stamp, post, serve, stampAll, file],
    { collaborators with generator, functions := Functions.empty.register "stamp" function }⟩

/-- The model answers, but the function is out of ink. -/
def inkless : Library :=
  office (some fun _ _ => .ok (.text "Dear all")) fun _ => .error (.function "stamp" "out of ink")

/-- There is no model, and the function is out of ink. -/
def closedOffice : Library :=
  office none fun _ => .error (.function "stamp" "out of ink")

/-- The model and the function answer. -/
def openOffice : Library :=
  office (some fun _ _ => .ok (.text "Dear all")) fun _ => .ok (.text "stamped")

/-- The three pipes. -/
def library : Library := ⟨.initial, [shout, shoutAll, report], collaborators⟩

/-- The library before the pipe that shouts a line has been written. -/
def unfinished : Library := ⟨.initial, [shoutAll, report], collaborators⟩

/-- A pipe that calls itself, and no other. -/
def circle : Library := ⟨.initial, [again], collaborators⟩

/-- A bundle in which the list whose lines are shouted is not declared as an input. -/
def bundle : Bundle where
  domain := "demo"
  definition := none
  concepts := ∅
  pipes := .ofList
    [("shout",
      { definition := "Shout a line", inputs := .ofList [("line", .brief "Text")]
        output := "Text", count := none, many := none, body := .compose "HEY" }),
     ("shout_all",
      { definition := "Shout all lines", inputs := ∅
        output := "Text", count := none, many := some true
        body := .batch "shout" (some "lines") "line" })]

/-- An engine for the three pipes. -/
def engine : Engine := ⟨library, .standard⟩

/-- A title and two lines. -/
def stuffs : List Stuff :=
  [⟨"line", text, .text "title"⟩, ⟨"lines", text, .list [.text "one", .text "two"]⟩]

/-- The memory with the title and the lines. -/
def memory : WorkingMemory := .ofStuffs stuffs

/-- A live run in which so many pipes may be under way. -/
def live (limit : Nat) : Params := ⟨.live, limit, none, 3⟩

/-- A dry run with the same bound. -/
def dry (limit : Nat) : Params := ⟨.dry, limit, none, 3⟩

end Conduit.Sample
