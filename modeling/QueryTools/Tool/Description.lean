import QueryTools.Operation

/-!
# Descriptions of operations

What a client is told of an operation: its own description, its parameters, and the form of its
result, in which objects are written out down to a fixed depth.
-/

namespace QueryTools

namespace TypeRef

/-- A reference written with brackets and exclamation marks around a text for the named type. -/
def wrapText (inner : String → String) : TypeRef → String
  | .named name => inner name
  | .list item => "[" ++ wrapText inner item ++ "]"
  | .nonNull type => wrapText inner type ++ "!"

end TypeRef

namespace Operation

/-- How many levels of objects a description writes out. -/
def outputDepth : Nat := 5

/-- The form of a named type with at least one level left, of which `below` are left inside. -/
def namedOutput (s : Schema) : Nat → String → String
  | below, name =>
    match s.find? name with
    | none => "Unknown"
    | some t =>
      match t.form with
      | .scalar _ => t.name
      | .enum .. => "ENUM " ++ t.name
      | .object _ fields | .interface _ fields =>
        match below with
        | 0 => t.name
        | below + 1 =>
          let entries := fields.map fun f =>
            "  " ++ f.name ++ ": " ++ f.type.wrapText (namedOutput s below)
          "\x7b\n" ++ "\n".intercalate entries ++ "\n\x7d"
      | .union members => " | ".intercalate members
      | .input _ _ => t.name

/-- The form of a type with `depth` levels of objects; with none an ellipsis. -/
def outputText (s : Schema) (depth : Nat) (type : TypeRef) : String :=
  match depth with
  | 0 => "..."
  | below + 1 => type.wrapText (namedOutput s below)

/-- What is said of an operation without a description. -/
def anonymous (o : Operation) : String := "Anonymous " ++ o.kind.word

/-- The description of an operation as it was given, or the words that stand for an empty one. -/
def ownDescription (o : Operation) : Json := (o.description.filter Json.isTruthy).getD (.str o.anonymous)

/-- The description of an operation as a text. -/
def summary (o : Operation) : String := o.ownDescription.plain

/-- The line for a parameter. -/
def parameterLine (p : Parameter) : String :=
  let note := ((p.description.filter Json.isTruthy).map fun v => " - " ++ v.plain).getD ""
  "- " ++ p.name ++ ": " ++ p.type.text ++ note

/-- All that is said of an operation. -/
def describe (s : Schema) (o : Operation) : String :=
  let parameters :=
    if o.parameters.isEmpty then "No parameters required"
    else "\n".intercalate (o.parameters.map parameterLine)
  let output := match o.output with
    | some type => outputText s outputDepth type
    | none => "Unknown output type"
  s!"{o.kind.word} operation: \"{o.name}\"\n\nDESCRIPTION:\n{o.summary}\n\nPARAMETERS:\n{parameters}\n\n"
    ++ s!"OUTPUT TYPE:\n{output}\n\n"
    ++ "When you use this operation, you'll receive a response with this structure."

end Operation

end QueryTools
