import QueryTools.Text.Quoted

/-!
# Issues with given values

When a value does not fit where it is given, an issue says where and why.  Several issues with one
value are listed in the order of its parts.
-/

namespace QueryTools

/-- A step from a value to one of its parts. -/
inductive PathStep where
  | name (text : String)
  | index (n : Nat)
  deriving DecidableEq, Repr

/-- The step as a part of a dotted path. -/
def PathStep.text : PathStep → String
  | .name text => text
  | .index n => toString n

/-- The step as an index between brackets. -/
def PathStep.display : PathStep → String
  | .name text => Text.quoted text
  | .index n => toString n

/-- Why a value does not fit. -/
inductive IssueCause where
  | missing
  | notString
  | notInt
  | notFloat
  | notBool
  | notList
  /-- None of a fixed set of texts. -/
  | notChoice (options : List String)
  /-- None of a fixed set of texts that form a type of their own. -/
  | notEnum (options : List String)
  /-- No object, where one for the named model is expected. -/
  | notModel (name : String)
  | unreadableInt
  /-- A text or a fraction too long or too large to be taken for a whole number. -/
  | oversizedInt
  | unreadableFloat
  | unreadableBool
  | fractionalInt
  | notFinite
  | belowMinimum (minimum : Nat)
  | notAbove (bound : Nat)
  /-- Refused by a rule of its own, with the rule's wording. -/
  | refused (text : String)
  deriving DecidableEq, Repr

namespace IssueCause

/-- Alternatives with commas and a last `or`: `a`, `a or b`, `a, b or c`. -/
def choiceText : List String → String
  | [] => ""
  | [a] => a
  | a :: b :: rest =>
    let all := a :: b :: rest
    ", ".intercalate all.dropLast ++ " or " ++ all.getLastD ""

/-- The word for the kind of an issue. -/
def kind : IssueCause → String
  | .missing => "missing"
  | .notString => "string_type"
  | .notInt => "int_type"
  | .notFloat => "float_type"
  | .notBool => "bool_type"
  | .notList => "list_type"
  | .notChoice _ => "literal_error"
  | .notEnum _ => "enum"
  | .notModel _ => "model_type"
  | .unreadableInt => "int_parsing"
  | .oversizedInt => "int_parsing_size"
  | .unreadableFloat => "float_parsing"
  | .unreadableBool => "bool_parsing"
  | .fractionalInt => "int_from_float"
  | .notFinite => "finite_number"
  | .belowMinimum _ => "greater_than_equal"
  | .notAbove _ => "greater_than"
  | .refused _ => "value_error"

/-- The wording of an issue. -/
def message : IssueCause → String
  | .missing => "Field required"
  | .notString => "Input should be a valid string"
  | .notInt => "Input should be a valid integer"
  | .notFloat => "Input should be a valid number"
  | .notBool => "Input should be a valid boolean"
  | .notList => "Input should be a valid list"
  | .notChoice options | .notEnum options =>
    "Input should be " ++ choiceText (options.eraseDups.map Text.quoted)
  | .notModel name => "Input should be a valid dictionary or instance of " ++ name
  | .unreadableInt => "Input should be a valid integer, unable to parse string as an integer"
  | .oversizedInt => "Unable to parse input string as an integer, exceeded maximum size"
  | .unreadableFloat => "Input should be a valid number, unable to parse string as a number"
  | .unreadableBool => "Input should be a valid boolean, unable to interpret input"
  | .fractionalInt => "Input should be a valid integer, got a number with a fractional part"
  | .notFinite => "Input should be a finite number"
  | .belowMinimum minimum => s!"Input should be greater than or equal to {minimum}"
  | .notAbove bound => s!"Input should be greater than {bound}"
  | .refused text => "Value error, " ++ text

end IssueCause

/-- A value that does not fit: where it stands, and why. -/
structure Issue where
  path : List PathStep
  cause : IssueCause
  deriving DecidableEq, Repr

/-- The heading of a report: how many issues there are with what. -/
def Issue.heading (subject : String) (issues : List Issue) : String :=
  let noun := if issues.length = 1 then "error" else "errors"
  s!"{issues.length} validation {noun} for {subject}"

end QueryTools
