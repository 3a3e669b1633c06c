import WebOfThings.Schema

/-!
# Snapshots of values

A snapshot is a value as it was seen at one moment: its bytes, what they decode to, the schema
they were read by, and whether they decoded cleanly. Bytes that arrive always make a snapshot
(`Snapshot.ofWire`): if they are no JSON text, their readable form is kept as the value, and an
object that turns out to be something else is kept as it is; neither is clean. A value at hand is
encoded first (`Snapshot.ofNative`); what cannot be encoded, or not be read back, leaves an empty
snapshot.

The typed accessors read the *bytes*, and give a default where those are of another type.
-/

namespace WebOfThings

/-- A value as it was seen at one moment. -/
structure Snapshot where
  /-- The schema it was read by. -/
  schema : Option DataSchema
  /-- Its bytes. -/
  encoded : Bytes
  /-- What the bytes decode to, or their readable form. -/
  value : Json
  /-- Whether the bytes decoded to a value of the expected shape. -/
  clean : Bool
  deriving Repr, Inhabited

namespace Snapshot

/-- The snapshot of bytes that arrived. -/
def ofWire (encoded : Bytes) (schema : Option DataSchema) : Snapshot :=
  match Json.read? encoded with
  | some value =>
    let expected := schema.bind (·.dataType)
    { schema, encoded, value, clean := expected ≠ some .object || value.isObject }
  | none => { schema, encoded, value := .string (Bytes.toStringLossy encoded), clean := false }

/-- The snapshot of a text that an encoder gave, or of nothing if it gave none. -/
def ofEncoding (encoding : Option Bytes) (schema : Option DataSchema) : Snapshot :=
  match encoding with
  | none => { schema, encoded := [], value := .null, clean := false }
  | some encoded =>
    match Json.read? encoded with
    | some value => { schema, encoded, value, clean := true }
    | none => { schema, encoded := [], value := .null, clean := false }

/-- The snapshot of a value at hand. -/
def ofNative (value : Json) (schema : Option DataSchema) : Snapshot :=
  ofEncoding (some value.compact) schema

/-- What the bytes decode to. -/
def decoded? (s : Snapshot) : Option Json := Json.read? s.encoded

/-- The value as a text: its readable form if it did not decode. -/
def toText (s : Snapshot) : String :=
  match s.clean, s.value with
  | false, .string text => text
  | _, _ => (s.decoded?.bind Json.string?).getD ""

/-- The value as a truth value. -/
def toBool (s : Snapshot) : Bool := (s.decoded?.bind Json.bool?).getD false

/-- The value as a signed integer of 64 bits. -/
def toInt (s : Snapshot) : Int :=
  match s.decoded?.bind Json.number? with
  | some (.integer i) => if i < Nat.pow 2 63 then i else 0
  | _ => 0

/-- The value as a double. -/
def toDouble (s : Snapshot) : Double :=
  ((s.decoded?.bind Json.number?).map Number.toDouble).getD (Double.zero false)

/-- The value as named values. -/
def toMembers (s : Snapshot) : Members Json := (s.decoded?.map Json.members).getD []

/-- The value as a list. -/
def toItems (s : Snapshot) : List Json := (s.decoded?.map Json.items).getD []

end Snapshot

/-- The latest snapshot under each name. -/
abbrev ValueStore := NameMap Snapshot

end WebOfThings
