import WebOfThings.Description.Basic
import WebOfThings.Store.Disk
import WebOfThings.Table

/-!
# Stores of descriptions

The descriptions known to an account, each under the identifier of its thing. A description is
shared: the store only refers to it, and whoever else refers to it sees every change made to it.

A store may have a cache file. It is written as the list of all descriptions, in the order of
their identifiers, on indented lines. Loading it adds what it lists, the later of two descriptions
with one identifier, and is all or nothing: a file that cannot be read or understood changes
nothing, and a missing one is no error.
-/

namespace WebOfThings

/-- Refers to a shared description. -/
abbrev DescriptionRef := Nat

/-- All shared descriptions. -/
abbrev Catalogue := Table ThingDescription

/-- The descriptions known to an account. -/
structure ThingStore where
  /-- The account. -/
  account : String
  /-- The descriptions by the identifiers of their things, sorted. -/
  things : Members DescriptionRef := []
  /-- The file that the descriptions are cached in. -/
  cacheFile : Option Path := none
  deriving Repr, Inhabited

namespace ThingStore

/-- Adds a description, or replaces the one of the same thing. -/
def add (catalogue : Catalogue) (d : DescriptionRef) (s : ThingStore) : ThingStore :=
  match catalogue.get? d with
  | some description => { s with things := Members.insert description.id d s.things }
  | none => s

/-- The description of a thing. -/
def get? (s : ThingStore) (id : String) : Option DescriptionRef := Members.get? id s.things

/-- Takes the description of a thing out. -/
def remove (s : ThingStore) (id : String) : ThingStore :=
  { s with things := s.things.filter (·.1 ≠ id) }

/-- The identifiers of all things, sorted. -/
def ids (s : ThingStore) : List String := s.things.map (·.1)

/-- How many things there are. -/
def size (s : ThingStore) : Nat := s.things.length

/-- The descriptions of all things, in the order of their identifiers. -/
def documents (catalogue : Catalogue) (s : ThingStore) : List ThingDescription :=
  s.things.filterMap fun (_, d) => catalogue.get? d

/-- The text of a list of descriptions. -/
def encode (documents : List ThingDescription) : Bytes :=
  (Json.array (documents.map ThingDescription.toJson)).indented 0

/-- Reads the text of a list of descriptions. -/
def decode (text : Bytes) : Option (List ThingDescription) :=
  (Reader.list ThingDescription.reader).read? text

/-- Adds descriptions that nobody shares yet. -/
def addAll (documents : List ThingDescription) (catalogue : Catalogue) (s : ThingStore) :
    Catalogue × ThingStore :=
  documents.foldl
    (fun (catalogue, s) document =>
      (catalogue.add document,
        { s with things := Members.insert document.id catalogue.next s.things }))
    (catalogue, s)

/-- The content of the cache file, if there is one. -/
def cached? (disk : Disk) (s : ThingStore) : Except Error (Option (List ThingDescription)) :=
  match s.cacheFile with
  | none => .ok none
  | some path =>
    if (disk.find? path).isNone then .ok none
    else
      match disk.read? path with
      | .error e => .error e
      | .ok text =>
        match decode text with
        | some documents => .ok (some documents)
        | none => .error ⟨.decode, s!"Invalid thing cache `{path}`"⟩

/-- Adds what the cache file lists. -/
def load (disk : Disk) (catalogue : Catalogue) (s : ThingStore) :
    Outcome × Catalogue × ThingStore :=
  match s.cached? disk with
  | .error e => (.error e, catalogue, s)
  | .ok none => (.done, catalogue, s)
  | .ok (some documents) => (.done, s.addAll documents catalogue)

/-- Writes the cache file. -/
def save (disk : Disk) (catalogue : Catalogue) (s : ThingStore) : Outcome × Disk :=
  match s.cacheFile with
  | none => (.done, disk)
  | some path =>
    match disk.write? path (encode (s.documents catalogue)) with
    | .ok disk => (.done, disk)
    | .error e => (.error e, disk)

end ThingStore

end WebOfThings
