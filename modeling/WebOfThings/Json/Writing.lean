import WebOfThings.Json.Literal
import WebOfThings.Json.Quoted

/-!
# JSON texts

Two ways to write a value: `Json.compact` without any blank, and `Json.indented` with one item or
member to a line, indented by two spaces for each list or object around it; an empty list or
object stays on its line. Members are written in the order given.
-/

namespace WebOfThings.Json

/-- The texts given, with a separator between any two of them. -/
def separated (separator : Bytes) : List Bytes → Bytes
  | [] => []
  | [text] => text
  | text :: rest => text ++ separator ++ separated separator rest

/-- The text of a number; what digits cannot spell is written as null. -/
def numberText (n : Number) : Bytes :=
  match n.literal with
  | some literal => literal.text
  | none => Bytes.ofString "null"

/-- The comma. -/
def comma : Bytes := [','.toUInt8]

mutual

/-- The text of a value without blanks. -/
def compact : Json → Bytes
  | null => Bytes.ofString "null"
  | bool true => Bytes.ofString "true"
  | bool false => Bytes.ofString "false"
  | number n => numberText n
  | string s => Quoted.text s
  | array items => '['.toUInt8 :: (separated comma (compactItems items) ++ [']'.toUInt8])
  | object members =>
    '{'.toUInt8 :: (separated comma (compactMembers members) ++ ['}'.toUInt8])

/-- The texts of the items of a list. -/
def compactItems : List Json → List Bytes
  | [] => []
  | item :: rest => compact item :: compactItems rest

/-- The texts of the members of an object. -/
def compactMembers : List (String × Json) → List Bytes
  | [] => []
  | (name, value) :: rest =>
    (Quoted.text name ++ ':'.toUInt8 :: compact value) :: compactMembers rest

end

/-- A new line, indented for `level` lists and objects around it. -/
def newLine (level : Nat) : Bytes := 0x0A :: List.replicate (2 * level) 0x20

/-- The lines of a list or object: each on a line of its own, then the closing line. -/
def block (opening closing : Char) (level : Nat) : List Bytes → Bytes
  | [] => [opening.toUInt8, closing.toUInt8]
  | lines =>
    opening.toUInt8 :: (newLine (level + 1) ++ separated (comma ++ newLine (level + 1)) lines ++
      newLine level ++ [closing.toUInt8])

mutual

/-- The text of a value on indented lines. -/
def indented (level : Nat) : Json → Bytes
  | array items => block '[' ']' level (indentedItems (level + 1) items)
  | object members => block '{' '}' level (indentedMembers (level + 1) members)
  | null => Bytes.ofString "null"
  | bool true => Bytes.ofString "true"
  | bool false => Bytes.ofString "false"
  | number n => numberText n
  | string s => Quoted.text s

/-- The texts of the items of a list on indented lines. -/
def indentedItems (level : Nat) : List Json → List Bytes
  | [] => []
  | item :: rest => indented level item :: indentedItems level rest

/-- The texts of the members of an object on indented lines. -/
def indentedMembers (level : Nat) : List (String × Json) → List Bytes
  | [] => []
  | (name, value) :: rest =>
    (Quoted.text name ++ ':'.toUInt8 :: 0x20 :: indented level value) ::
      indentedMembers level rest

end

end WebOfThings.Json
