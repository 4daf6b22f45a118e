import QueryTools.Http.Address
import QueryTools.Settings.Reading

/-!
# Forms

What the protocol asks of the values in a message.  A form is a test on a value; the forms of
objects are put together from tests on their members, of which unknown ones are let pass.

Main statement: an object has a form exactly if its members pass each test of the form
(`Form.record_obj`).
-/

namespace QueryTools

/-- What is asked of a value. -/
abbrev Form := Json → Bool

namespace Form

/-- Any value. -/
def any : Form := fun _ => true

/-- A text. -/
def text : Form := fun v => v.str?.isSome

/-- One of some words. -/
def word (words : List String) : Form := fun v => v.str?.any words.contains

/-- A truth value, or what stands for one. -/
def switch : Form := fun v => (Settings.readSwitch v).toBool

/-- A number written as a whole one. -/
def count : Form := fun v => v.int?.isSome

/-- A text, or a value that stands for a whole number. -/
def label : Form
  | .str _ => true
  | v => (Settings.readWhole v).toBool

/-- An address. -/
def address : Form := fun v => v.str?.any fun text => (Address.normal text).toBool

/-- A list of values of one form. -/
def list (item : Form) : Form := fun v => v.arr?.any fun items => items.all item

/-- An object whose members all have one form. -/
def table (item : Form) : Form := fun v => v.obj?.any fun members => members.all fun p => item p.2

/-- An object whose members pass tests. -/
def record (parts : List (Members → Bool)) : Form := fun v =>
  v.obj?.any fun members => parts.all fun part => part members

/-- A member that has to be there. -/
def required (name : String) (form : Form) (members : Members) : Bool :=
  (Keyed.get? name members).any form

/-- A member that may be left out or null. -/
def optional (name : String) (form : Form) (members : Members) : Bool :=
  match Keyed.get? name members with
  | none | some .null => true
  | some v => form v

/-- An object with any members. -/
def object : Form := record []

theorem record_obj {parts : List (Members → Bool)} {members : Members} :
    record parts (.obj members) = true ↔ ∀ part ∈ parts, part members = true := by
  simp [record, Json.obj?]

theorem object_obj (members : Members) : object (.obj members) = true :=
  record_obj.2 fun _ h => by cases h

/-- What the parameters of every request may say of the request. -/
def request : Form := record [
  optional "_meta" (record [optional "progressToken" label]),
  optional "task" (record [optional "ttl" count])]

/-- What the parameters of every notification may say of it. -/
def notification : Form := record [optional "_meta" object]

/-- The parameters of a list that comes in parts. -/
def page : Form := record [optional "cursor" text]

/-- What a client tells of its abilities. -/
def abilities : Form := record [
  optional "experimental" (table object),
  optional "sampling" (record [optional "context" object, optional "tools" object]),
  optional "elicitation" (record [optional "form" object, optional "url" object]),
  optional "roots" (record [optional "listChanged" switch]),
  optional "tasks" (record [
    optional "list" object,
    optional "cancel" object,
    optional "requests" (record [
      optional "sampling" (record [optional "createMessage" object]),
      optional "elicitation" (record [optional "create" object])])])]

/-- A picture that stands for a client. -/
def icon : Form := record [
  required "src" text, optional "mimeType" text, optional "sizes" (list text)]

/-- What a client tells of itself. -/
def client : Form := record [
  required "name" text, required "version" text, optional "title" text,
  optional "websiteUrl" text, optional "icons" (list icon)]

/-- The parameters that open a conversation. -/
def opening : Form := record [
  required "protocolVersion" label, required "capabilities" abilities,
  required "clientInfo" client]

/-- The parameters of a call. -/
def call : Form := record [required "name" text, optional "arguments" object]

/-- The parameters that name an address. -/
def place : Form := record [required "uri" address]

/-- The parameters that name a task. -/
def task : Form := record [required "taskId" text]

/-- What a completion is asked for. -/
def reference : Form := fun v =>
  record [required "type" (word ["ref/resource"]), required "uri" text] v ||
    record [required "type" (word ["ref/prompt"]), required "name" text, optional "title" text] v

/-- The parameters that ask for a completion. -/
def completion : Form := record [
  required "ref" reference,
  required "argument" (record [required "name" text, required "value" text]),
  optional "context" (record [optional "arguments" (table text)])]

end Form

end QueryTools
