import WebOfThings.Bytes
import WebOfThings.Error

/-!
# Files

Files and directories by their location: the names on the way to them from the root. A path is
text; it is followed name by name (`Disk.locate`), and every name but the last must be that of a
directory. What is joined to a directory is a path inside it, unless it is absolute
(`Path.join`) or leads out again.
-/

namespace WebOfThings

/-- A path to a file or directory. -/
abbrev Path := String

namespace Path

/-- A path seen from a directory. -/
def join (directory : Path) (name : Path) : Path :=
  if name.startsWith "/" then name
  else if directory = "" || directory.endsWith "/" then directory ++ name
  else directory ++ "/" ++ name

/-- A path as it is seen from a directory, if it begins with that, and the whole path
    otherwise. -/
def relative (directory : Path) (p : Path) : Path :=
  let front := directory ++ "/"
  if p.startsWith front then String.ofList (p.toList.drop front.length) else p

/-- The names that a path is followed by. -/
def names (p : Path) : List String :=
  ((p.toList.splitOn '/').map String.ofList).filter fun name => name ≠ "" && name ≠ "."

end Path

/-- The names on the way from the root. -/
abbrev Location := List String

/-- What there may be at a location. -/
inductive Node
  /-- A file with its content. -/
  | file (content : Bytes)
  /-- A directory. -/
  | directory
  deriving DecidableEq, Repr, Inhabited

/-- All files and directories. -/
structure Disk where
  /-- What is at which location. The root is a directory always. -/
  nodes : List (Location × Node) := []
  deriving Repr, Inhabited

namespace Disk

/-- What is at a location. -/
def node? (d : Disk) (l : Location) : Option Node :=
  if l = [] then some .directory else (d.nodes.find? (·.1 = l)).map (·.2)

/-- Puts something at a location. -/
def put (d : Disk) (l : Location) (n : Node) : Disk :=
  ⟨(l, n) :: d.nodes.filter (·.1 ≠ l)⟩

/-- The longest name of a file, in bytes. -/
def maxNameSize : Nat := 255

/-- Whether a file or directory can have a name. -/
def nameIsValid (name : String) : Bool :=
  name.utf8ByteSize ≤ maxNameSize && !name.toList.contains '\x00'

/-- Follows names from a location. -/
def walk (d : Disk) (l : Location) : List String → Option Location
  | [] => some l
  | name :: rest =>
    if d.node? l ≠ some .directory then none
    else if name = ".." then walk d l.dropLast rest
    else if nameIsValid name then walk d (l ++ [name]) rest
    else none

/-- The location that a path leads to, whether or not there is something. -/
def locate (d : Disk) (p : Path) : Option Location := d.walk [] p.names

/-- What a path leads to. -/
def find? (d : Disk) (p : Path) : Option Node := (d.locate p).bind d.node?

/-- The content of the file that a path leads to. -/
def read? (d : Disk) (p : Path) : Except Error Bytes :=
  match d.find? p with
  | some (.file content) => .ok content
  | _ => .error ⟨.inputOutput, s!"Unable to read `{p}`"⟩

/-- Writes the file that a path leads to. It is made if it does not exist, but its directory is
    not. -/
def write? (d : Disk) (p : Path) (content : Bytes) : Except Error Disk :=
  match d.locate p with
  | none => .error (failure p)
  | some l =>
    if d.node? l.dropLast = some .directory ∧ d.node? l ≠ some .directory then
      .ok (d.put l (.file content))
    else .error (failure p)
where
  /-- A file that cannot be written. -/
  failure (p : Path) : Error := ⟨.inputOutput, s!"Unable to write `{p}`"⟩

/-- Makes a directory. -/
def makeDirectory (d : Disk) (p : Path) : Disk :=
  match d.locate p with
  | some l => d.put l .directory
  | none => d

end Disk

end WebOfThings
