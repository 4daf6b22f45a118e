import QueryTools.Action
import QueryTools.Settings.Basic

/-!
# The set of tools

A toolset holds the tools for the operations of a schema under their names.  Operations are left
out where their kind is not admitted, where the settings exclude them, and where their tool's name
is reserved.  Building computes a whole new set first, so one that fails leaves the old set as it
was: `Toolset.build` gives a toolset only where it succeeds.
-/

namespace QueryTools

/-- What decides which tools a set has. -/
structure ToolRules where
  settings : Settings
  /-- Names that no tool of the set takes. -/
  reserved : List String
  /-- Makes the tool for an operation of a schema. -/
  make : Schema → Operation → Except Failure Tool

/-- Tools under their names. -/
structure Toolset where
  rules : ToolRules
  tools : Keyed Tool := []

namespace ToolRules

/-- The rules that the settings give. -/
def ofSettings (settings : Settings) (reserved : List String) : ToolRules :=
  ⟨settings, reserved, settings.synthesizer.synthesize⟩

/-- The name under which toolsets are logged. -/
def logger : String := moduleLogger "registry"

/-- What becomes of an operation. -/
inductive Fate where
  /-- It is excluded, and no tool is made. -/
  | excluded
  /-- Its tool's name is reserved. -/
  | reserved (name : String)
  | kept (tool : Tool)

/-- What becomes of an operation of a schema. -/
def fate (r : ToolRules) (s : Schema) (o : Operation) : Except Failure Fate :=
  if r.settings.excludes o.kind o.name then .ok .excluded
  else do
    let tool ← r.make s o
    return if r.reserved.contains tool.name then .reserved tool.name else .kept tool

/-- The tools for operations, added to those there are.  No two have the same name. -/
def collect (r : ToolRules) (s : Schema) (done : Keyed Tool) : List Operation → Action (Keyed Tool)
  | [] => pure done
  | o :: rest => do
    match ← Action.ofResult (r.fate s o) with
    | .excluded => do
      Action.say .info logger s!"Skipping operation {o.name} as it is excluded"
      collect r s done rest
    | .reserved name => do
      Action.say .warning logger s!"Skipping operation {o.name}: tool name {name} is reserved"
      collect r s done rest
    | .kept tool =>
      if Keyed.has tool.name done then Action.fail (.duplicateTool tool.name)
      else collect r s (done ++ [(tool.name, tool)]) rest

/-- The operations of a schema that are of admitted kinds. -/
def operations (r : ToolRules) (s : Schema) : Action (List Operation) := do
  let kinds := r.settings.allowedKinds
  let os ← Action.ofResult ((s.operations kinds).mapError Failure.roots)
  let words := ", ".intercalate (kinds.map OperationKind.word)
  Action.say .debug (moduleLogger "operations") s!"Extracted {os.length} operations ({words})"
  return os

/-- The tools for a schema. -/
def compute (r : ToolRules) (s : Schema) : Action (Keyed Tool) := do
  r.collect s [] (← r.operations s)

end ToolRules

namespace Toolset

/-- A set without tools. -/
def empty (rules : ToolRules) : Toolset := { rules }

/-- The tool with a name. -/
def lookup (t : Toolset) (name : String) : Option Tool := Keyed.get? name t.tools

/-- Whether there is a tool with a name. -/
def contains (t : Toolset) (name : String) : Bool := Keyed.has name t.tools

/-- The names of the tools, in order. -/
def names (t : Toolset) : List String := Keyed.names t.tools

/-- How many tools there are. -/
def size (t : Toolset) : Nat := t.tools.length

/-- The set with the tools for a schema. -/
def build (t : Toolset) (s : Schema) : Action Toolset := do
  let tools ← t.rules.compute s
  Action.say .info ToolRules.logger s!"Registered {tools.length} GraphQL tools"
  return { t with tools }

/-- The set with the tools for a schema that takes the place of an earlier one. -/
def reload (t : Toolset) (s : Schema) : Action Toolset := do
  let rebuilt ← t.build s
  Action.say .info ToolRules.logger s!"Reloaded GraphQL tools: {t.size} -> {rebuilt.size}"
  return rebuilt

end Toolset

end QueryTools
