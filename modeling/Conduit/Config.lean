import Conduit.Json.Record
import Conduit.Text.Blank

/-!
# Configuration

A run is live, or dry: a dry run makes up what generators and functions would
answer. The configuration says which is the default, how deep pipes may call each
other, and how long the lists of a dry run are.
-/

namespace Conduit

/-- Does a run call its collaborators, or make their answers up? -/
inductive RunMode where
  | live
  | dry
  deriving DecidableEq, Repr

namespace RunMode

/-- The name of a mode. -/
def name : RunMode → String
  | live => "live"
  | dry => "dry"

/-- A text that names no mode, in small letters. -/
structure Unknown where
  text : String
  deriving DecidableEq, Repr

/-- The wording of the fault. -/
def Unknown.message (fault : Unknown) : String :=
  s!"unknown run mode '{fault.text}'"

/-- Read the name of a mode; ASCII letters may be large or small. -/
def ofText (text : String) : Except Unknown RunMode :=
  let text := String.ofList (text.toList.map Char.toLower)
  if text = "live" then .ok live
  else if text = "dry" || text = "dry_run" then .ok dry
  else .error ⟨text⟩

/-- Read a mode by its exact name. -/
def ofName? (name : String) : Option RunMode :=
  if name = "live" then some live else if name = "dry" then some dry else none

/-- Read a mode from its name, or from an object that holds nothing but the name, with null. -/
def ofJson? : Json → Option RunMode
  | .string name => ofName? name
  | .object [(name, .null)] => ofName? name
  | _ => none

end RunMode

/-- The limits of runs and their default mode. -/
structure EngineConfig where
  /-- How many pipes may be under way at a time. -/
  stackLimit : Nat
  /-- How many items a list of a dry run has when no one says. -/
  dryListLength : Nat
  mode : RunMode
  deriving DecidableEq, Repr

namespace EngineConfig

/-- The configuration that holds when nothing is configured. -/
def standard : EngineConfig := ⟨20, 3, .live⟩

instance : Inhabited EngineConfig := ⟨standard⟩

/-- Sizes are below this bound. -/
def bound : Nat := Nat.pow 2 64

/-- Read a configuration; what is left out is standard. -/
def ofJson? (value : Json) : Option EngineConfig := do
  let record ← value.record? ["pipe_stack_limit", "dry_run_list_len", "default_run_mode"]
  let stackLimit ← record.withDefault "pipe_stack_limit" standard.stackLimit (Json.nat? bound)
  let dryListLength ←
    record.withDefault "dry_run_list_len" standard.dryListLength (Json.nat? bound)
  let mode ← record.withDefault "default_run_mode" standard.mode RunMode.ofJson?
  return ⟨stackLimit, dryListLength, mode⟩

/-- Write a configuration. -/
def toJson (config : EngineConfig) : Json :=
  .ofFields [("pipe_stack_limit", .integer config.stackLimit),
    ("dry_run_list_len", .integer config.dryListLength),
    ("default_run_mode", .string config.mode.name)]

/-- Read a size: digits, with a plus sign before them or without. -/
def sizeOf? (cs : List Char) : Option Nat :=
  let digits := match cs with
    | '+' :: rest => rest
    | cs => cs
  if digits.isEmpty || !digits.all Char.isDigit then none
  else
    let size := Json.Numeral.natOf digits
    if size < bound then some size else none

/-- The standard configuration with a limit and a mode that the environment may give. A text that
does not read is passed over. -/
def ofEnvironment (limit mode : Option String) : EngineConfig :=
  let limit? := limit.bind fun text => sizeOf? (Text.trim text.toList)
  let mode? := mode.bind fun text => (RunMode.ofText (Text.trimmed text)).toOption
  { standard with
    stackLimit := limit?.getD standard.stackLimit
    mode := mode?.getD standard.mode }

end EngineConfig

end Conduit
