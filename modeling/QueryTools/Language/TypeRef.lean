/-!
# References to types

A type as documents write it: a name, a list of a type, or a type whose null is excluded.
-/

namespace QueryTools

/-- A reference to a type. -/
inductive TypeRef where
  | named (name : String)
  | list (item : TypeRef)
  | nonNull (type : TypeRef)
  deriving DecidableEq, Repr, Inhabited

namespace TypeRef

/-- The reference as documents write it. -/
def text : TypeRef → String
  | .named name => name
  | .list item => "[" ++ item.text ++ "]"
  | .nonNull type => type.text ++ "!"

/-- The name inside all wrappers. -/
def name : TypeRef → String
  | .named name => name
  | .list item => item.name
  | .nonNull type => type.name

/-- How many wrappers stand around the name. -/
def wraps : TypeRef → Nat
  | .named _ => 0
  | .list item => item.wraps + 1
  | .nonNull type => type.wraps + 1

/-- Whether null is excluded. -/
def isNonNull : TypeRef → Bool
  | .nonNull _ => true
  | _ => false

/-- The type with null admitted. -/
def nullable : TypeRef → TypeRef
  | .nonNull type => type
  | type => type

end TypeRef

end QueryTools
