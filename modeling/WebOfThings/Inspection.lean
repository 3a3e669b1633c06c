import WebOfThings.Bytes
import WebOfThings.Unprintable

/-!
# Inspection

How values are shown to a developer: a text between quotes with everything that would not print
written as an escape (`Inspection.quoted`), a record by its name and fields, with dots for what is
kept to itself (`Inspection.record`), and bytes as a list of numbers.
-/

namespace WebOfThings.Inspection

/-- The lower case hexadecimal digits of a number. -/
def hexDigits (n : Nat) : List Char := Nat.toDigits 16 n

/-- How a character of a text is shown. -/
def escape (c : Char) : List Char :=
  if c = '"' || c = '\\' then ['\\', c]
  else if c = '\n' then ['\\', 'n']
  else if c = '\r' then ['\\', 'r']
  else if c = '\t' then ['\\', 't']
  else if c = '\x00' then ['\\', '0']
  else if Unprintable.isUnprintable c then ['\\', 'u', '\x7b'] ++ hexDigits c.toNat ++ ['\x7d']
  else [c]

/-- A text between quotes. -/
def quoted (s : String) : String :=
  String.ofList ('"' :: (s.toList.flatMap escape ++ ['"']))

/-- Texts with a comma between any two of them. -/
def commas (texts : List String) : String := ", ".intercalate texts

/-- A record: its name and its fields. What is `partly` shown ends in two dots. -/
def record (name : String) (fields : List (String × String)) (partly : Bool) : String :=
  let shown := fields.map fun (field, value) => field ++ ": " ++ value
  name ++ " \x7b " ++ commas (if partly then shown ++ [".."] else shown) ++ " \x7d"

/-- What may be missing. -/
def option {α : Type} (inspect : α → String) : Option α → String
  | none => "None"
  | some value => "Some(" ++ inspect value ++ ")"

/-- Bytes, as numbers. -/
def bytes (b : Bytes) : String := "[" ++ commas (b.map fun n => toString n.toNat) ++ "]"

/-- A truth value. -/
def bool (b : Bool) : String := if b then "true" else "false"

end WebOfThings.Inspection
