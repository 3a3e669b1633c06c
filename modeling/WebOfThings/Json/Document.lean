import WebOfThings.Json.Literal
import WebOfThings.Json.Quoted

/-!
# JSON documents

A document is what a JSON text says before anything is asked of it (`Document`): texts are still
in their escapes, numbers in their digits, and members in the order written, with their
repetitions. `Document.read?` reads one: a single document and blanks around it, where a blank is
a space, a tab, a line feed or a carriage return.

Reading a document asks only for its form. `Document.value?` asks for its value: every text must
be a text, every number must be one that can be held, and lists and objects may be nested at most
`Document.maxDepth` deep. Of two members with one name the later one counts.
-/

namespace WebOfThings

/-- What a JSON text says, as it is spelled. -/
inductive Document
  /-- `null`. -/
  | null
  /-- `true` or `false`. -/
  | bool (value : Bool)
  /-- A number, by its spelling. -/
  | number (literal : Literal)
  /-- A text, by the bytes between its quotes. -/
  | string (body : Bytes)
  /-- A list. -/
  | array (items : List Document)
  /-- Members, in the order written; the names are given as texts are. -/
  | object (members : List (Bytes × Document))
  deriving Inhabited

namespace Document

/-- Whether a byte may stand between the parts of a document. -/
def isBlank (b : UInt8) : Bool := b = 0x20 || b = 0x09 || b = 0x0A || b = 0x0D

/-- What follows the blanks at the front of a text. -/
def skipBlanks (text : Bytes) : Bytes := text.dropWhile isBlank

/-- Takes a word off the front of a text. -/
def scanWord (word : String) (text : Bytes) : Option Bytes :=
  let bytes := Bytes.ofString word
  if bytes.isPrefixOf text then some (text.drop bytes.length) else none

mutual

/-- Takes a document off the front of a text, in at most `fuel` nested steps. -/
def scan : (fuel : Nat) → Bytes → Option (Document × Bytes)
  | 0, _ => none
  | fuel + 1, text =>
    match skipBlanks text with
    | [] => none
    | b :: rest =>
      if b = Quoted.quote then
        (Quoted.scan rest).map fun (body, rest) => (string body, rest)
      else if b = '['.toUInt8 then
        match skipBlanks rest with
        | [] => none
        | c :: after =>
          if c = ']'.toUInt8 then some (array [], after)
          else (scanItems fuel rest).map fun (items, rest) => (array items, rest)
      else if b = '{'.toUInt8 then
        match skipBlanks rest with
        | [] => none
        | c :: after =>
          if c = '}'.toUInt8 then some (object [], after)
          else (scanMembers fuel rest).map fun (members, rest) => (object members, rest)
      else if b = 'n'.toUInt8 then (scanWord "null" (b :: rest)).map (null, ·)
      else if b = 't'.toUInt8 then (scanWord "true" (b :: rest)).map (bool true, ·)
      else if b = 'f'.toUInt8 then (scanWord "false" (b :: rest)).map (bool false, ·)
      else (Literal.scan (b :: rest)).map fun (literal, rest) => (number literal, rest)

/-- Takes the items of a list, at least one, and its end off the front of a text. -/
def scanItems : (fuel : Nat) → Bytes → Option (List Document × Bytes)
  | 0, _ => none
  | fuel + 1, text => do
    let (item, text) ← scan fuel text
    match skipBlanks text with
    | [] => none
    | b :: text =>
      if b = ','.toUInt8 then
        let (items, text) ← scanItems fuel text
        some (item :: items, text)
      else if b = ']'.toUInt8 then some ([item], text)
      else none

/-- Takes the members of an object, at least one, and its end off the front of a text. -/
def scanMembers : (fuel : Nat) → Bytes → Option (List (Bytes × Document) × Bytes)
  | 0, _ => none
  | fuel + 1, text =>
    match skipBlanks text with
    | [] => none
    | b :: text =>
      if b = Quoted.quote then do
        let (name, text) ← Quoted.scan text
        match skipBlanks text with
        | [] => none
        | b :: text =>
          if b = ':'.toUInt8 then
            let (value, text) ← scan fuel text
            match skipBlanks text with
            | [] => none
            | b :: text =>
              if b = ','.toUInt8 then
                let (members, text) ← scanMembers fuel text
                some ((name, value) :: members, text)
              else if b = '}'.toUInt8 then some ([(name, value)], text)
              else none
          else none
      else none

end

/-- Reads a text that is one document and nothing else. No step is taken without a byte, so the
    length of the text bounds the steps. -/
def read? (text : Bytes) : Option Document :=
  match scan (2 * text.length + 1) text with
  | some (document, rest) => if skipBlanks rest = [] then some document else none
  | none => none

/-- How deep lists and objects may be nested in a value. -/
def maxDepth : Nat := 127

mutual

/-- The value of a document nested at most `depth` deep. -/
def value? (depth : Nat) : Document → Option Json
  | null => some .null
  | bool b => some (.bool b)
  | number literal => literal.number.map .number
  | string body => (Quoted.decode body).map .string
  | array items =>
    match depth with
    | 0 => none
    | depth + 1 => (itemValues? depth items).map .array
  | object members =>
    match depth with
    | 0 => none
    | depth + 1 => (memberValues? depth members).map fun members =>
      .object (Members.ofList members)

/-- The values of a list of documents. -/
def itemValues? (depth : Nat) : List Document → Option (List Json)
  | [] => some []
  | item :: rest => do
    let value ← value? depth item
    let values ← itemValues? depth rest
    some (value :: values)

/-- The values of the members of an object, in the order written. -/
def memberValues? (depth : Nat) : List (Bytes × Document) → Option (List (String × Json))
  | [] => some []
  | (name, document) :: rest => do
    let name ← Quoted.decode name
    let value ← value? depth document
    let values ← memberValues? depth rest
    some ((name, value) :: values)

end

end Document

/-- Reads the value of a JSON text. -/
def Json.read? (text : Bytes) : Option Json :=
  (Document.read? text).bind (Document.value? Document.maxDepth)

/-- An object that is read is sorted. -/
theorem Json.sorted_of_read? {text : Bytes} {members : Members Json}
    (h : Json.read? text = some (.object members)) : Members.Sorted members := by
  obtain ⟨document, -, h⟩ := Option.bind_eq_some_iff.1 h
  cases document with
  | null | bool _ => simp [Document.value?] at h
  | number literal => simp [Document.value?] at h
  | string body => simp [Document.value?] at h
  | array items => simp [Document.value?, Document.maxDepth] at h
  | object documents =>
    simp only [Document.value?, Document.maxDepth, Option.map_eq_some_iff, Json.object.injEq] at h
    obtain ⟨read, -, rfl⟩ := h
    exact Members.sorted_ofList read

end WebOfThings
