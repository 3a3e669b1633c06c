import WebOfThings.Json.Record
import WebOfThings.Json.Writing

/-!
# Data schemas

What a value should look like: a title, a data type, bounds, allowed values. A schema describes
and does not enforce: `DataSchema.accepts` compares the data type alone, a schema without a data
type accepts everything, and an integer is a number.
-/

namespace WebOfThings

/-- The data types of values. -/
inductive DataType
  | boolean
  | integer
  | number
  | string
  | array
  | object
  | null
  deriving DecidableEq, Repr, Inhabited

namespace DataType

/-- The name of a data type. -/
def name : DataType → String
  | boolean => "boolean"
  | integer => "integer"
  | number => "number"
  | string => "string"
  | array => "array"
  | object => "object"
  | null => "null"

/-- All data types. -/
def all : List DataType := [boolean, integer, number, string, array, object, null]

/-- The data type of a name. -/
def ofName? (name : String) : Option DataType := all.find? (·.name = name)

/-- Whether a value is of the data type. -/
def accepts : DataType → Json → Bool
  | boolean, .bool _ => true
  | integer, .number (.integer _) => true
  | number, .number _ => true
  | string, .string _ => true
  | array, .array _ => true
  | object, .object _ => true
  | null, .null => true
  | _, _ => false

/-- Reads a data type: its name, or an object with that name alone and nothing under it. What
    counts as nothing is given. -/
def reader (isNothing : Document → Bool) : Reader DataType
  | _, .string body => (Quoted.decode body).bind ofName?
  | _ + 1, .object [(name, value)] => do
    let type ← (Quoted.decode name).bind ofName?
    if isNothing value then some type else none
  | _, _ => none

end DataType

/-- The shape of a value. -/
structure DataSchema where
  /-- Title for people. -/
  title : String := ""
  /-- Description for people. -/
  description : Option String := none
  /-- Data type; without one any value is accepted. -/
  dataType : Option DataType := none
  /-- Unit of measurement. -/
  unit : Option String := none
  /-- Whether the value can only be read. -/
  readOnly : Bool := false
  /-- Whether the value can only be written. -/
  writeOnly : Bool := false
  /-- Lower bound of a number. -/
  minimum : Option Double := none
  /-- Upper bound of a number. -/
  maximum : Option Double := none
  /-- Allowed values. -/
  enumeration : Option (List Json) := none
  /-- Default value. -/
  default : Option Json := none
  deriving Repr, Inhabited

namespace DataSchema

/-- The schema of a title and a data type. -/
def ofType (title : String) (type : DataType) : DataSchema := { title, dataType := some type }

/-- Whether a value is of the data type, if there is one. -/
def accepts (s : DataSchema) (value : Json) : Bool :=
  match s.dataType with
  | none => true
  | some type => type.accepts value

/-- The fields of a schema that are written, in their order. -/
def fields (s : DataSchema) : List (String × Json) :=
  Record.fieldUnlessEmpty "title" s.title ++
  Record.fieldIfSome "description" .string s.description ++
  Record.fieldIfSome "type" (fun type => .string type.name) s.dataType ++
  Record.fieldIfSome "unit" .string s.unit ++
  Record.fieldIfTrue "readOnly" s.readOnly ++
  Record.fieldIfTrue "writeOnly" s.writeOnly ++
  Record.fieldIfSome "minimum" Json.ofDouble s.minimum ++
  Record.fieldIfSome "maximum" Json.ofDouble s.maximum ++
  Record.fieldIfSome "enum" .array s.enumeration ++
  Record.fieldIfSome "default" id s.default

/-- How a schema is written. -/
def toJson (s : DataSchema) : Json := .object s.fields

/-- The names of the fields of a schema, in their order. -/
def fieldNames : List String :=
  ["title", "description", "type", "unit", "readOnly", "writeOnly", "minimum", "maximum", "enum",
    "default"]

/-- Reads the fields of a schema; what counts as nothing under the name of a data type is
    given. -/
def ofRecord? (isNothing : Document → Bool) (r : Record) : Option DataSchema := do
  let title ← r.withDefault "title" "" Reader.string
  let description ← r.optional "description" Reader.string
  let dataType ← r.optional "type" (DataType.reader isNothing)
  let unit ← r.optional "unit" Reader.string
  let readOnly ← r.withDefault "readOnly" false Reader.bool
  let writeOnly ← r.withDefault "writeOnly" false Reader.bool
  let minimum ← r.optional "minimum" Reader.double
  let maximum ← r.optional "maximum" Reader.double
  let enumeration ← r.optional "enum" (Reader.list Reader.json)
  let default ← r.optional "default" Reader.json
  some { title, description, dataType, unit, readOnly, writeOnly, minimum, maximum, enumeration,
         default }

/-- Whether a document is null. -/
def isNull : Document → Bool
  | .null => true
  | _ => false

/-- Reads a schema. -/
def reader : Reader DataSchema := fun depth document =>
  (Record.fields? fieldNames depth document).bind (ofRecord? isNull)

/-- Equality of schemas: bounds, allowed values and default are compared as values. -/
def same (s t : DataSchema) : Bool :=
  s.title = t.title && s.description = t.description && s.dataType = t.dataType &&
  s.unit = t.unit && s.readOnly = t.readOnly && s.writeOnly = t.writeOnly &&
  both Double.same s.minimum t.minimum && both Double.same s.maximum t.maximum &&
  both Json.sameItems s.enumeration t.enumeration && both Json.same s.default t.default
where
  /-- Equality of what may be missing. -/
  both {α : Type} (equal : α → α → Bool) : Option α → Option α → Bool
    | none, none => true
    | some x, some y => equal x y
    | _, _ => false

end DataSchema

end WebOfThings
