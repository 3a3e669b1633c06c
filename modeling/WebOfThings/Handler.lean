import WebOfThings.Bus.Local
import WebOfThings.Interaction

/-!
# Handlers

A handler is what somebody wants done when something happens: a list of acts under a label
(`Handler`). It is called on an `Occasion`: a request to an exposed thing, a notice about a
consumed thing, or a message on a bus. An act may name what it is about, or leave it open: then it
is about what the occasion is about.

Acts are data, so handlers can be compared, stored, and set by other handlers. They may do
anything that a caller may do, to any thing and any bus.
-/

namespace WebOfThings

/-- Refers to an exposed thing. -/
abbrev ExposedRef := Nat

/-- Refers to a consumed thing. -/
abbrev ConsumedRef := Nat

/-- Refers to a bus. -/
abbrev BusRef := Nat

/-- What a handler does. Names, values and topics that are left open are those of the occasion. -/
inductive Act
  /-- An exposed thing emits an event. -/
  | emitEvent (thing : ExposedRef) (name : Option String) (value : Option Json)
  /-- An exposed thing emits the change of a property. -/
  | emitProperty (thing : ExposedRef) (name : Option String) (value : Option Json)
  /-- An exposed thing emits changes of properties; a value that is no object has none. -/
  | emitChanges (thing : ExposedRef) (value : Option Json) (onlyChanges : Bool)
  /-- An exposed thing is asked for something. -/
  | request (thing : ExposedRef) (name : Option String) (value : Option Json)
  /-- An exposed thing is asked for the value it emitted last. -/
  | lookUp (thing : ExposedRef) (name : Option String)
  /-- An exposed thing gets a handler of an action. -/
  | handleAction (thing : ExposedRef) (name : Option String) (label : String) (acts : List Act)
  /-- An exposed thing gets a handler of the writes of a property. -/
  | handleWrite (thing : ExposedRef) (name : Option String) (label : String) (acts : List Act)
  /-- An exposed thing is destroyed. -/
  | destroy (thing : ExposedRef)
  /-- The request is refused. -/
  | refuse (error : Error)
  /-- A consumed thing invokes an action. -/
  | invoke (thing : ConsumedRef) (name : Option String) (value : Option Json)
  /-- A consumed thing writes a property. -/
  | write (thing : ConsumedRef) (name : Option String) (value : Option Json)
  /-- A consumed thing is handed an event. -/
  | receive (thing : ConsumedRef) (name : Option String) (value : Option Json)
  /-- A consumed thing is asked for the value it received last. -/
  | read (thing : ConsumedRef) (name : Option String)
  /-- A consumed thing gets a subscriber of an event. -/
  | subscribe (thing : ConsumedRef) (name : Option String) (label : String) (acts : List Act)
  /-- A consumed thing loses the subscriber of an event. -/
  | unsubscribe (thing : ConsumedRef) (name : Option String)
  /-- A consumed thing gets an observer of a property. -/
  | observe (thing : ConsumedRef) (name : Option String) (label : String) (acts : List Act)
  /-- A consumed thing loses the observer of a property. -/
  | unobserve (thing : ConsumedRef) (name : Option String)
  /-- A consumed thing is stopped. -/
  | stop (thing : ConsumedRef)
  /-- A consumed thing is destroyed by its factory. -/
  | dismiss (thing : ConsumedRef)
  /-- A value is published. -/
  | publish (bus : BusRef) (topic : Option String) (value : Option Json)
  /-- A filter gets a receiver. -/
  | listen (bus : BusRef) (filter : Option String) (label : String) (acts : List Act)
  /-- A filter loses its receiver. -/
  | unlisten (bus : BusRef) (filter : Option String)
  /-- A bus is disconnected. -/
  | disconnect (bus : BusRef)
  deriving Repr, Inhabited

/-- What is done when something happens. -/
structure Handler where
  /-- By what name it is told from others. -/
  label : String
  /-- What it does, in order. -/
  acts : List Act := []
  deriving Repr, Inhabited

/-- What a handler is called on. -/
inductive Occasion
  /-- A request to an exposed thing. -/
  | request (name : String) (input : Snapshot)
  /-- A notice about a consumed thing. -/
  | notice (name : String) (value : Snapshot)
  /-- A message on a bus. -/
  | message (message : Message)
  deriving Repr, Inhabited

namespace Occasion

/-- What an occasion is about: a name, or a topic. -/
def subject : Occasion → String
  | request name _ | notice name _ => name
  | message m => m.topic

/-- The value that an occasion brings; a message brings bytes and no value. -/
def value : Occasion → Json
  | request _ input => input.value
  | notice _ value => value.value
  | message _ => .null

/-- Whether the first act that fails ends the handler, and is how it ended. -/
def isRefusable : Occasion → Bool
  | request .. => true
  | notice .. | message _ => false

end Occasion

namespace Act

/-- What an act does, in a word. -/
def verb : Act → String
  | emitEvent .. => "emit_event"
  | emitProperty .. => "emit_property"
  | emitChanges .. => "emit_changes"
  | request .. => "request"
  | lookUp .. | read .. => "read"
  | handleAction .. => "set_action"
  | handleWrite .. => "set_write"
  | destroy _ | dismiss _ => "destroy"
  | refuse _ => "fail"
  | invoke .. => "invoke"
  | write .. => "write"
  | receive .. => "event"
  | subscribe .. | listen .. => "subscribe"
  | unsubscribe .. | unlisten .. => "unsubscribe"
  | observe .. => "observe"
  | unobserve .. => "unobserve"
  | stop _ => "stop"
  | publish .. => "publish"
  | disconnect _ => "disconnect"

/-- The name or topic that an act gives, if it gives one. -/
def subject? : Act → Option String
  | emitEvent _ name _ | emitProperty _ name _ | request _ name _ | lookUp _ name
  | handleAction _ name _ _ | handleWrite _ name _ _ | invoke _ name _ | write _ name _
  | receive _ name _ | read _ name | subscribe _ name _ _ | unsubscribe _ name
  | observe _ name _ _ | unobserve _ name | publish _ name _ | listen _ name _ _
  | unlisten _ name => name
  | emitChanges .. | destroy _ | refuse _ | stop _ | dismiss _ | disconnect _ => none

/-- The value that an act gives, if it gives one. -/
def value? : Act → Option Json
  | emitEvent _ _ value | emitProperty _ _ value | emitChanges _ value _ | request _ _ value
  | invoke _ _ value | write _ _ value | receive _ _ value | publish _ _ value => value
  | _ => none

/-- What an act is about on an occasion. -/
def subject (o : Occasion) (a : Act) : String := a.subject?.getD o.subject

/-- The value of an act on an occasion. -/
def value (o : Occasion) (a : Act) : Json := a.value?.getD o.value

end Act

/-- What came of an act. -/
inductive ActResult
  /-- It was carried out, or failed. -/
  | outcome (outcome : Outcome)
  /-- It found something to undo, or not. -/
  | found (found : Bool)
  /-- The value that was asked for, or why there is none. -/
  | value (value : Except Error Snapshot)
  /-- The value that was asked for, if there is one. -/
  | lookedUp (value : Option Snapshot)
  /-- Nothing that could be told. -/
  | silent

/-- Why an act failed, where an act can fail. -/
def ActResult.error? : ActResult → Option Error
  | outcome (.error e) => some e
  | _ => none

end WebOfThings
