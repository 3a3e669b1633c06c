import WebOfThings.Json.Document
import WebOfThings.NameMap

/-!
# Records in JSON

A record is a value with fields of known names. It is written as an object whose members are its
fields in their order, those left out that say nothing (`Record.write`).

It is read from an object, in which unknown members are passed over unread and no known one may
come twice, or from a list of its fields in their order, from which the last ones may be missing
(`Record.fields?`). What each field then asks of its document is a `Reader`: a required field must
be there, an optional one may be missing or null, and one with a default may only be missing.
-/

namespace WebOfThings

/-- Reads a value from a document that may be nested at most `depth` deep. -/
abbrev Reader (α : Type) := (depth : Nat) → Document → Option α

namespace Reader

variable {α β : Type}

/-- Any value. -/
def json : Reader Json := Document.value?

/-- A text. -/
def string : Reader String
  | _, .string body => Quoted.decode body
  | _, _ => none

/-- A truth value. -/
def bool : Reader Bool
  | _, .bool b => some b
  | _, _ => none

/-- A number, as a double. -/
def double : Reader Double
  | _, .number literal => literal.number.map Number.toDouble
  | _, _ => none

/-- An integer below `2 ^ 16`. -/
def port : Reader UInt16
  | _, .number literal =>
    match literal.number with
    | some (.integer i) => if 0 ≤ i ∧ i < Nat.pow 2 16 then some (UInt16.ofNat i.toNat) else none
    | _ => none
  | _, _ => none

/-- A list. -/
def list (item : Reader α) : Reader (List α)
  | depth + 1, .array items => items.mapM (item depth)
  | _, _ => none

/-- An object with any names, in the order of their first appearance; of two members with one
    name the later one counts. -/
def named (value : Reader α) : Reader (NameMap α)
  | depth + 1, .object members => do
    let entries ← members.mapM fun (name, document) => do
      let name ← Quoted.decode name
      let value ← value depth document
      some (name, value)
    some (NameMap.ofList entries)
  | _, _ => none

end Reader

/-- The documents of the fields of a record, and how deep they may be nested. -/
structure Record where
  /-- The fields that are there. -/
  fields : List (String × Document)
  /-- How deep they may be nested. -/
  depth : Nat

namespace Record

variable {α : Type}

/-- The members of an object whose names are known. Every name must be a text. -/
def known (names : List String) : List (Bytes × Document) → Option (List (String × Document))
  | [] => some []
  | (name, document) :: rest => do
    let name ← Quoted.decode name
    let fields ← known names rest
    some (if name ∈ names then (name, document) :: fields else fields)

/-- The fields of a record with the names given, in an object. -/
def ofMembers? (names : List String) (depth : Nat) (members : List (Bytes × Document)) :
    Option Record := do
  let fields ← known names members
  if (fields.map (·.1)).Nodup then some ⟨fields, depth⟩ else none

/-- The fields of a record with the names given, in an object or in a list. -/
def fields? (names : List String) : Reader Record
  | depth + 1, .object members => ofMembers? names depth members
  | depth + 1, .array items =>
    if items.length ≤ names.length then some ⟨names.zip items, depth⟩ else none
  | _, _ => none

/-- The document of a field. -/
def find? (r : Record) (name : String) : Option Document := NameMap.findEntry name r.fields

/-- A field that must be there. -/
def required (r : Record) (name : String) (read : Reader α) : Option α :=
  (r.find? name).bind (read r.depth)

/-- A field that may be missing or null. -/
def optional (r : Record) (name : String) (read : Reader α) : Option (Option α) :=
  match r.find? name with
  | none | some .null => some none
  | some document => (read r.depth document).map some

/-- A field that may be missing, and then has a default. -/
def withDefault (r : Record) (name : String) (default : α) (read : Reader α) : Option α :=
  match r.find? name with
  | none => some default
  | some document => read r.depth document

/-- A field to be written. -/
def field (name : String) (value : Json) : List (String × Json) := [(name, value)]

/-- A field to be written if it has a value. -/
def fieldIfSome (name : String) (write : α → Json) : Option α → List (String × Json)
  | none => []
  | some value => field name (write value)

/-- A text to be written unless it is empty. -/
def fieldUnlessEmpty (name value : String) : List (String × Json) :=
  if value = "" then [] else field name (.string value)

/-- A truth value to be written if it is true. -/
def fieldIfTrue (name : String) (value : Bool) : List (String × Json) :=
  if value then field name (.bool true) else []

/-- A list of texts. -/
def strings (texts : List String) : Json := .array (texts.map .string)

/-- Named values, in their order. -/
def named (write : α → Json) (m : NameMap α) : Json := .object (m.map write).entries

end Record

/-- Reads the value of a JSON text by a reader. -/
def Reader.read? {α : Type} (read : Reader α) (text : Bytes) : Option α :=
  (Document.read? text).bind (read Document.maxDepth)

end WebOfThings
