import QueryTools.Issue
import QueryTools.Json.Access
import QueryTools.Json.Layout
import QueryTools.Text.Lines

/-!
# Conformance to a JSON Schema

Whether a value conforms to a JSON Schema that uses the keywords `type`, `items`, `properties`,
`required` and `enum`.  A whole number may be written as a fraction, truth values are no numbers,
and members that the schema does not name are admitted.  Of several mismatches one is reported: the
least deep, of those the one whose path comes last, and of those one with the wrong type.

No value is held against a schema that is none itself.  What these keywords hold is always as it should
be, but a description may be something else than a text, and then the schema is refused before any value
is looked at: `Json.objection?` says what is wrong, with the schema or with the value.
-/

namespace QueryTools

/-- Why a value does not conform to a schema. -/
inductive MismatchCause where
  | wrongType (value : Json) (expected : String)
  | notAmong (value choices : Json)
  | lacks (name : String)
  deriving Repr

/-- A part of a value that does not conform to its schema. -/
structure Mismatch where
  path : List PathStep
  cause : MismatchCause
  /-- Whether the part has the type that the schema names. -/
  hasType : Bool
  deriving Repr

namespace Mismatch

/-- The wording of a mismatch. -/
def message (m : Mismatch) : String :=
  match m.cause with
  | .wrongType value expected => s!"{value.display} is not of type {Text.quoted expected}"
  | .notAmong value choices => s!"{value.display} is not one of {choices.display}"
  | .lacks name => s!"{Text.quoted name} is a required property"

/-- Whether one step comes before another. -/
def stepBefore : PathStep → PathStep → Bool
  | .name a, .name b => a < b
  | .index a, .index b => a < b
  | .name _, .index _ => false
  | .index _, .name _ => true

/-- Whether one path comes before another. -/
def pathBefore : List PathStep → List PathStep → Bool
  | [], [] => false
  | [], _ :: _ => true
  | _ :: _, [] => false
  | a :: as, b :: bs => stepBefore a b || (a == b && pathBefore as bs)

/-- Whether a mismatch tells less than another. -/
def tellsLess (a b : Mismatch) : Bool :=
  if a.path.length != b.path.length then b.path.length < a.path.length
  else if a.path != b.path then pathBefore a.path b.path
  else a.hasType && !b.hasType

/-- The first of those mismatches that tell the most. -/
def foremost? : List Mismatch → Option Mismatch
  | [] => none
  | m :: rest => some (rest.foldl (fun best m => if best.tellsLess m then m else best) m)

end Mismatch

/-- A description in a schema that is no text. -/
structure BadDescription where
  /-- The steps to it from the schema. -/
  path : List PathStep
  /-- The steps to the rule that it breaks from the schema of schemas. -/
  rule : List PathStep
  value : Json
  deriving Repr

/-- The wording for a description that is no text. -/
def BadDescription.message (b : BadDescription) : String :=
  let place (whole : String) (steps : List PathStep) :=
    whole ++ String.join (steps.map fun step => "[" ++ step.display ++ "]")
  let lines := Text.lines b.value.laidOut.toList
  b.value.display ++ " is not of type 'string'\n\nFailed validating 'type' in "
    ++ place "metaschema" b.rule ++ ":\n    \x7b'type': 'string'\x7d\n\nOn " ++ place "schema" b.path
    ++ ":" ++ String.join (lines.map fun line => "\n    " ++ String.ofList line)

namespace Json

/-- Whether a value has the type of a name. -/
def hasType (type : String) (v : Json) : Bool :=
  match type, v with
  | "null", .null => true
  | "boolean", .bool _ => true
  | "string", .str _ => true
  | "array", .arr _ => true
  | "object", .obj _ => true
  | "integer", .int _ => true
  | "integer", .float x => x.toInt?.isSome
  | "number", .int _ => true
  | "number", .float _ => true
  | _, _ => false

/-- Whether a value is among the texts that a list holds. -/
def isAmong (choices : Json) : Json → Bool
  | .str s => (choices.arr?.getD []).any fun c => c.str? == some s
  | _ => false

mutual

/-- What of a value does not conform to a schema, the value standing at a path. -/
def mismatches (path : List PathStep) (v : Json) : Json → List Mismatch
  | .obj keywords =>
    let typed := ((Keyed.get? "type" keywords).bind Json.str?).any fun t => v.hasType t
    keywordMismatches path v typed keywords
  | _ => []

/-- What of a value does not conform to keywords. -/
def keywordMismatches (path : List PathStep) (v : Json) (typed : Bool) :
    List (String × Json) → List Mismatch
  | [] => []
  | (keyword, rule) :: rest =>
    let here : List Mismatch :=
      match keyword, rule, v with
      | "type", .str t, v => if v.hasType t then [] else [⟨path, .wrongType v t, typed⟩]
      | "enum", choices, v => if isAmong choices v then [] else [⟨path, .notAmong v choices, typed⟩]
      | "required", .arr names, .obj members =>
        names.filterMap fun n =>
          n.str?.bind fun name =>
            if Keyed.has name members then none else some ⟨path, .lacks name, typed⟩
      | "properties", .obj schemas, .obj members => memberMismatches path members schemas
      | "items", schema, .arr items =>
        (items.zipIdx.map fun (item, i) => mismatches (path ++ [.index i]) item schema).flatten
      | _, _, _ => []
    here ++ keywordMismatches path v typed rest

/-- What of an object's members does not conform to the schemas under their names. -/
def memberMismatches (path : List PathStep) (members : List (String × Json)) :
    List (String × Json) → List Mismatch
  | [] => []
  | (name, schema) :: rest =>
    (match Keyed.get? name members with
      | some v => mismatches (path ++ [.name name]) v schema
      | none => []) ++ memberMismatches path members rest

end

/-- The mismatch to report of a value with a schema, if it does not conform. -/
def mismatch? (schema v : Json) : Option Mismatch := Mismatch.foremost? (mismatches [] v schema)

/-! ### Schemas that are none -/

/-- The steps to the rule for a keyword in one of the parts that the schema of schemas is made of. -/
def ruleOf (part : Nat) (keyword : String) : List PathStep :=
  [.name "allOf", .index part, .name "properties", .name keyword]

mutual

/-- The descriptions in a schema that are no texts, those in its parts first.  `path` leads to the schema,
and `rule` to the rule that it is under. -/
def badDescriptions (path rule : List PathStep) : Json → List BadDescription
  | .obj keywords =>
    badDescriptionsWithin path rule keywords ++
      match Keyed.get? "description" keywords with
      | none | some (.str _) => []
      | some value => [⟨path ++ [.name "description"], rule ++ ruleOf 4 "description", value⟩]
  | _ => []

/-- The descriptions that are no texts in the schemas that keywords hold. -/
def badDescriptionsWithin (path rule : List PathStep) : List (String × Json) → List BadDescription
  | [] => []
  | (keyword, held) :: rest =>
    (match keyword, held with
      | "items", schema => badDescriptions (path ++ [.name "items"]) (rule ++ ruleOf 1 "items") schema
      | "properties", .obj schemas =>
        badDescriptionsAmong (path ++ [.name "properties"])
          (rule ++ ruleOf 1 "properties" ++ [.name "additionalProperties"]) schemas
      | _, _ => []) ++ badDescriptionsWithin path rule rest

/-- The descriptions that are no texts in schemas under names. -/
def badDescriptionsAmong (path rule : List PathStep) : List (String × Json) → List BadDescription
  | [] => []
  | (name, schema) :: rest =>
    badDescriptions (path ++ [.name name]) rule schema ++ badDescriptionsAmong path rule rest

end

/-- What is said of a value that is held against a schema, if it does not conform or the schema is none. -/
def objection? (schema v : Json) : Option String :=
  match badDescriptions [] [] schema with
  | bad :: _ => some bad.message
  | [] => (mismatch? schema v).map fun m => "Input validation error: " ++ m.message

end Json

end QueryTools
