import WebOfThings.Schema

/-!
# Affordances

What a thing offers under a name: a property, whose value can be read and perhaps written; an
event, which carries data; an action, which takes input. A property is described by the fields of
its schema and one of its own, so it is written as one object, and it is read from an object only.
-/

namespace WebOfThings

/-- A property of a thing. -/
structure Property where
  /-- The schema of its value. -/
  schema : DataSchema := {}
  /-- Whether its changes are announced. -/
  observable : Bool := false
  deriving Repr, Inhabited

namespace Property

/-- A property that can only be read. -/
def ofType (title : String) (type : DataType) : Property :=
  { schema := { DataSchema.ofType title type with readOnly := true } }

/-- Whether the property refuses to be written. -/
def isReadOnly (p : Property) : Bool := p.schema.readOnly

/-- How a property is written. -/
def toJson (p : Property) : Json :=
  .object (p.schema.fields ++ Record.fieldIfTrue "observable" p.observable)

/-- Whether a document is null or an object without members. -/
def isNullOrEmpty : Document → Bool
  | .null | .object [] => true
  | _ => false

/-- The name of the one field of a property that is none of its schema. -/
def observableName : String := "observable"

/-- Whether every member of an object, but the property's own field, has a value. -/
def membersHaveValues (depth : Nat) : List (Bytes × Document) → Bool
  | [] => true
  | (name, document) :: rest =>
    (Quoted.decode name = some observableName || (document.value? depth).isSome) &&
      membersHaveValues depth rest

/-- Reads a property. The members of its object are read before they are sorted into fields, so
    each of them must have a value, known or not. -/
def reader : Reader Property
  | depth + 1, .object members => do
    if membersHaveValues depth members then
      let r ← Record.ofMembers? (observableName :: DataSchema.fieldNames) depth members
      let schema ← DataSchema.ofRecord? isNullOrEmpty r
      let observable ← r.withDefault observableName false Reader.bool
      some { schema, observable }
    else none
  | _, _ => none

/-- Equality of properties. -/
def same (p q : Property) : Bool := p.schema.same q.schema && p.observable = q.observable

end Property

/-- An event of a thing. -/
structure Event where
  /-- Title for people. -/
  title : String := ""
  /-- Description for people. -/
  description : Option String := none
  /-- The schema of what it carries. -/
  data : DataSchema := {}
  deriving Repr, Inhabited

namespace Event

/-- An event that carries data of a type. -/
def ofType (title : String) (type : DataType) : Event :=
  { title, data := DataSchema.ofType title type }

/-- How an event is written. -/
def toJson (e : Event) : Json :=
  .object (Record.fieldUnlessEmpty "title" e.title ++
    Record.fieldIfSome "description" .string e.description ++
    Record.field "data" e.data.toJson)

/-- Reads an event. -/
def reader : Reader Event := fun depth document => do
  let r ← Record.fields? ["title", "description", "data"] depth document
  let title ← r.withDefault "title" "" Reader.string
  let description ← r.optional "description" Reader.string
  let data ← r.withDefault "data" {} DataSchema.reader
  some { title, description, data }

/-- Equality of events. -/
def same (e f : Event) : Bool :=
  e.title = f.title && e.description = f.description && e.data.same f.data

end Event

/-- An action of a thing. -/
structure Action where
  /-- Title for people. -/
  title : String := ""
  /-- Description for people. -/
  description : Option String := none
  /-- The schema of what it takes. -/
  input : Option DataSchema := none
  /-- The schema of what it gives. -/
  output : Option DataSchema := none
  /-- Whether it leaves the thing as it is. -/
  safe : Bool := false
  /-- Whether doing it again changes nothing more. -/
  idempotent : Bool := false
  deriving Repr, Inhabited

namespace Action

/-- An action that takes input of a type. -/
def ofType (title : String) (type : DataType) : Action :=
  { title, input := some (DataSchema.ofType title type) }

/-- How an action is written. -/
def toJson (a : Action) : Json :=
  .object (Record.fieldUnlessEmpty "title" a.title ++
    Record.fieldIfSome "description" .string a.description ++
    Record.fieldIfSome "input" DataSchema.toJson a.input ++
    Record.fieldIfSome "output" DataSchema.toJson a.output ++
    Record.field "safe" (.bool a.safe) ++
    Record.field "idempotent" (.bool a.idempotent))

/-- Reads an action. -/
def reader : Reader Action := fun depth document => do
  let r ← Record.fields?
    ["title", "description", "input", "output", "safe", "idempotent"] depth document
  let title ← r.withDefault "title" "" Reader.string
  let description ← r.optional "description" Reader.string
  let input ← r.optional "input" DataSchema.reader
  let output ← r.optional "output" DataSchema.reader
  let safe ← r.withDefault "safe" false Reader.bool
  let idempotent ← r.withDefault "idempotent" false Reader.bool
  some { title, description, input, output, safe, idempotent }

/-- Equality of actions. -/
def same (a b : Action) : Bool :=
  a.title = b.title && a.description = b.description &&
  DataSchema.same.both DataSchema.same a.input b.input &&
  DataSchema.same.both DataSchema.same a.output b.output &&
  a.safe = b.safe && a.idempotent = b.idempotent

end Action

end WebOfThings
