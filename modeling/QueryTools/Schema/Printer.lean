import QueryTools.Schema.Basic
import QueryTools.Language.LiteralText

/-!
# Schemas as text

`Schema.text` prints a schema as a document of type definitions: the definition of the schema
itself only where it says more than the usual names of the roots, then the directives, then the
types in the order of their declaration.  What every schema has is not printed.
-/

namespace QueryTools

namespace Schema

/-- A description above what it describes; a blank line before it unless it comes first. -/
def descriptionText (indentation : String) (first : Bool) : Option String → String
  | none => ""
  | some text =>
    let written :=
      if Text.fitsBlock text.toList then Text.documentBlock text else Text.documentString text
    let lead := if indentation != "" && !first then "\n" ++ indentation else indentation
    lead ++ Text.indentLines indentation written ++ "\n"

/-- The mark of what is deprecated. -/
def deprecationText : Option String → String
  | none => ""
  | some reason =>
    if reason = Standard.defaultDeprecation then " @deprecated"
    else " @deprecated(reason: " ++ Text.documentString reason ++ ")"

/-- An argument or an input field. -/
def inputText (v : InputValue) : String :=
  let default := (v.default.map fun d => " = " ++ d.text).getD ""
  v.name ++ ": " ++ v.type.text ++ default ++ deprecationText v.deprecation

/-- Each entry with a flag for whether it comes first. -/
def markFirst : List α → List (Bool × α)
  | [] => []
  | x :: rest => (true, x) :: rest.map fun y => (false, y)

/-- The arguments of a field or a directive: on one line unless one is described. -/
def argumentsText (indentation : String) (arguments : List InputValue) : String :=
  if arguments.isEmpty then ""
  else if arguments.all fun a => a.description.isNone then
    "(" ++ ", ".intercalate (arguments.map inputText) ++ ")"
  else
    let inner := "  " ++ indentation
    let entries := (markFirst arguments).map fun (first, a) =>
      descriptionText inner first (a.description.map Json.plain) ++ inner ++ inputText a
    "(\n" ++ "\n".intercalate entries ++ "\n" ++ indentation ++ ")"

/-- Entries between braces, one a line; nothing where there are none. -/
def blockText (entries : List String) : String :=
  if entries.isEmpty then "" else " \x7b\n" ++ "\n".intercalate entries ++ "\n\x7d"

/-- The fields of an object or an interface. -/
def fieldsText (fields : List OutputField) : String :=
  blockText <| (markFirst fields).map fun (first, f) =>
    descriptionText "  " first (f.description.map Json.plain) ++ "  " ++ f.name
      ++ argumentsText "  " f.arguments
      ++ ": " ++ f.type.text ++ deprecationText f.deprecation

/-- The interfaces that a type implements. -/
def interfacesText (names : List String) : String :=
  if names.isEmpty then "" else " implements " ++ " & ".intercalate names

/-- A named type. -/
def typeText (t : NamedType) : String :=
  descriptionText "" true t.description ++ match t.form with
    | .scalar specifiedBy =>
      "scalar " ++ t.name
        ++ (specifiedBy.map fun url => " @specifiedBy(url: " ++ Text.documentString url ++ ")").getD ""
    | .object interfaces fields =>
      "type " ++ t.name ++ interfacesText interfaces ++ fieldsText fields
    | .interface interfaces fields =>
      "interface " ++ t.name ++ interfacesText interfaces ++ fieldsText fields
    | .union members =>
      "union " ++ t.name ++ (if members.isEmpty then "" else " = " ++ " | ".intercalate members)
    | .enum values _ =>
      "enum " ++ t.name ++ blockText ((markFirst values).map fun (first, v) =>
        descriptionText "  " first v.description ++ "  " ++ v.name ++ deprecationText v.deprecation)
    | .input fields oneOf =>
      "input " ++ t.name ++ (if oneOf then " @oneOf" else "")
        ++ blockText ((markFirst fields).map fun (first, f) =>
          descriptionText "  " first (f.description.map Json.plain) ++ "  " ++ inputText f)

/-- A directive. -/
def directiveText (d : DirectiveType) : String :=
  descriptionText "" true d.description ++ "directive @" ++ d.name ++ argumentsText "" d.arguments
    ++ deprecationText d.deprecation ++ (if d.repeatable then " repeatable" else "") ++ " on " ++ " | ".intercalate d.locations

/-- Whether every root has the usual name, and every type with such a name is that root. -/
def hasUsualRoots (s : Schema) : Bool :=
  let usual := fun (root : Option String) (name : String) =>
    root == (if (s.find? name).isSome then some name else none)
  usual s.query "Query" && usual s.mutation "Mutation" && usual s.subscription "Subscription"

/-- The definition of the schema itself, where it has to be said. -/
def rootsText (s : Schema) : Option String :=
  if s.query.isNone && s.mutation.isNone && s.subscription.isNone then none
  else if s.description.isNone && s.hasUsualRoots then none
  else
    let line := fun (label : String) (root : Option String) =>
      (root.map fun name => "  " ++ label ++ ": " ++ name ++ "\n").getD ""
    some (descriptionText "" true s.description ++ "schema \x7b\n" ++ line "query" s.query
      ++ line "mutation" s.mutation ++ line "subscription" s.subscription ++ "\x7d")

/-- The schema as a document.  An enum whose values cannot be told is printed without any. -/
def text (s : Schema) : String :=
  "\n\n".intercalate (s.rootsText.toList
    ++ (s.directives.filter fun d => !Standard.isStandardDirective d.name).map directiveText
    ++ s.types.map typeText)

end Schema

end QueryTools
