/-!
# Errors

An error is a kind, by which a caller decides what to do, and a text that tells a person what
happened. Its message is the name of the kind, a colon and that text.
-/

namespace WebOfThings

/-- What went wrong, for a caller to act on. -/
inductive ErrorKind
  /-- An affordance, a thing or a value does not exist. -/
  | notFound
  /-- The operation is not allowed in the current state. -/
  | notAllowed
  /-- A property that can only be read was to be written. -/
  | readOnly
  /-- The thing is connected to nothing that could carry the operation out. -/
  | missingHook
  /-- Neither a specific nor a default handler is set. -/
  | noHandler
  /-- Data could not be decoded. -/
  | decode
  /-- The message bus, or a service, could not be reached or refused a message. -/
  | transport
  /-- Login, token refresh or access was refused. -/
  | auth
  /-- The configuration is not valid. -/
  | config
  /-- A file could not be read or written. -/
  | inputOutput
  deriving DecidableEq, Repr, Inhabited

namespace ErrorKind

/-- The name of a kind of error in messages. -/
def description : ErrorKind → String
  | notFound => "Not Found"
  | notAllowed => "Not Allowed"
  | readOnly => "Read Only"
  | missingHook => "Missing Hook"
  | noHandler => "No Handler"
  | decode => "Decode"
  | transport => "Transport"
  | auth => "Authentication"
  | config => "Configuration"
  | inputOutput => "Input/Output"

/-- The name of a kind of error as a single word. -/
def name : ErrorKind → String
  | notFound => "NotFound"
  | notAllowed => "NotAllowed"
  | readOnly => "ReadOnly"
  | missingHook => "MissingHook"
  | noHandler => "NoHandler"
  | decode => "Decode"
  | transport => "Transport"
  | auth => "Auth"
  | config => "Config"
  | inputOutput => "Io"

/-- Every kind of error. -/
def all : List ErrorKind :=
  [notFound, notAllowed, readOnly, missingHook, noHandler, decode, transport, auth, config,
    inputOutput]

/-- The kind of error that a word names. -/
def ofName? (s : String) : Option ErrorKind := all.find? (·.name = s)

end ErrorKind

/-- An error. -/
structure Error where
  /-- Its kind. -/
  kind : ErrorKind
  /-- What happened. -/
  info : String
  deriving DecidableEq, Repr, Inhabited

/-- The message of an error. -/
def Error.message (e : Error) : String := e.kind.description ++ ": " ++ e.info

/-- How an operation without a result ends. -/
abbrev Outcome := Except Error Unit

/-- The operation was carried out. -/
abbrev Outcome.done : Outcome := .ok ()

end WebOfThings
