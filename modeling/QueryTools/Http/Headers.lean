import QueryTools.Keyed
import QueryTools.Text.Blank

/-!
# Headers of a request

Every request carries JSON and says so first.  The caller's own headers are put over that, and
credentials over both, so the order of the headers is that in which their names first occur.
-/

namespace QueryTools

/-- How a credential is presented. -/
inductive AuthStyle where
  | bearer
  | basic
  /-- As a header of its own, written as its name and value around a colon. -/
  | header
  deriving DecidableEq, Repr

namespace AuthStyle

/-- All styles. -/
def all : List AuthStyle := [.bearer, .basic, .header]

/-- The word for a style. -/
def word : AuthStyle → String
  | .bearer => "bearer"
  | .basic => "basic"
  | .header => "header"

/-- The style of a word. -/
def ofWord? (word : String) : Option AuthStyle := all.find? fun s => s.word == word

/-- The header that presents a credential, if the credential has the form that the style asks
for. -/
def present? (style : AuthStyle) (value : String) : Option (String × String) :=
  match style with
  | .bearer => some ("Authorization", "Bearer " ++ value)
  | .basic => some ("Authorization", "Basic " ++ value)
  | .header => (Text.splitAt? ':' value).map fun (name, v) => (Text.trim name, Text.trim v)

end AuthStyle

namespace Headers

/-- The header that tells what a request carries. -/
def json : Keyed String := [("Content-Type", "application/json")]

/-- The header for a credential; an empty credential is none. -/
def credential (style : Option AuthStyle) (value : Option String) : Keyed String :=
  match style, value with
  | some style, some value => if value = "" then [] else (style.present? value).toList
  | _, _ => []

/-- The headers of a request. -/
def build (own : Keyed String) (style : Option AuthStyle) (value : Option String) : Keyed String :=
  Keyed.merge (Keyed.merge json own) (credential style value)

end Headers

end QueryTools
