/-!
# Topics

Messages travel on topics, whose levels are separated by slashes. A thing has one topic for its
description and two families of topics, for its events and for the requests to it:

| Topic | Carries |
|---|---|
| `things/{id}/td` | the description of the thing |
| `things/{id}/event/{name}` | an event, or the new value of a property |
| `things/{id}/event/properties` | the new values of several properties |
| `things/{id}/action/{name}` | a request for an action, or the write of a property |

`Topic.split?` takes such a topic apart: the name is all that follows the third slash.

A filter is a topic in which a level may be a wildcard: `+` stands for any one level, and `#`, as
the last level, for any number of them, none included (`Topic.matches`).
-/

namespace WebOfThings.Topic

/-- The first level of the topics of things. -/
def root : String := "things"

/-- The kind of message that carries the description of a thing. -/
def descriptionKind : String := "td"

/-- The kind of message that carries events and property changes. -/
def eventKind : String := "event"

/-- The kind of message that carries requests. -/
def actionKind : String := "action"

/-- The name under which several properties change at once. -/
def batchName : String := "properties"

/-- The topic of the description of a thing. -/
def description (thing : String) : String := root ++ "/" ++ thing ++ "/" ++ descriptionKind

/-- The topic of an event. -/
def event (thing name : String) : String :=
  root ++ "/" ++ thing ++ "/" ++ eventKind ++ "/" ++ name

/-- The topic of property changes. -/
def batch (thing : String) : String := event thing batchName

/-- The topic of the requests under a name. -/
def action (thing name : String) : String :=
  root ++ "/" ++ thing ++ "/" ++ actionKind ++ "/" ++ name

/-- The filter of all events of a thing. -/
def events (thing : String) : String := event thing "#"

/-- The filter of all requests to a thing. -/
def actions (thing : String) : String := action thing "#"

/-- What stands before and after the first slash, if there is one. -/
def cut? : List Char → Option (List Char × List Char)
  | [] => none
  | c :: rest =>
    if c = '/' then some ([], rest)
    else (cut? rest).map fun (before, after) => (c :: before, after)

/-- The parts of the topic of a message about a thing. -/
structure Parts where
  /-- The thing it is about. -/
  thing : String
  /-- The kind of message. -/
  kind : String
  /-- The name it is about. -/
  name : String
  deriving DecidableEq, Repr

/-- Takes the topic of a message about a thing apart. -/
def split? (topic : String) : Option Parts := do
  let (first, rest) ← cut? topic.toList
  if first ≠ root.toList then none
  let (thing, rest) ← cut? rest
  let (kind, name) ← cut? rest
  some ⟨String.ofList thing, String.ofList kind, String.ofList name⟩

/-- The levels of a topic: the segments between slashes, empty ones included. -/
def levels : List Char → List (List Char)
  | [] => [[]]
  | c :: rest =>
    if c = '/' then [] :: levels rest
    else
      match levels rest with
      | [] => [[c]]
      | level :: more => (c :: level) :: more

/-- Whether the levels of a topic match those of a filter. -/
def levelsMatch : (filter topic : List (List Char)) → Bool
  | [], [] => true
  | [], _ :: _ => false
  | expected :: filter, [] => expected = ['#'] && filter.isEmpty
  | expected :: filter, level :: topic =>
    if expected = ['#'] then filter.isEmpty
    else (expected = ['+'] || expected = level) && levelsMatch filter topic

/-- Whether a topic matches a filter. -/
def «matches» (filter topic : String) : Bool :=
  levelsMatch (levels filter.toList) (levels topic.toList)

end WebOfThings.Topic
