import CrateDdl.Hook
import CrateDdl.Journal.Basic
import CrateDdl.Platform.Basic

/-!
# Steps of a session

What a host can do with named dispatchers and builders, and the handlers that it registers. A
handler is described by its answer and by the actions it takes first; an action is a step of the
same session, or a fault.
-/

set_option autoImplicit false

namespace CrateDdl

/-- The registry that a step is about: a dispatcher's, or the one that a builder uses. -/
inductive Target
  | dispatcher (name : String)
  | builder (name : String)
deriving DecidableEq, Repr

/-- What a handler does before it answers. -/
inductive HandlerAction (S : Type)
  | raise (fault : Fault)
  | perform (step : S)
deriving Repr, Inhabited

/-- A handler. It leaves the event alone from the call after the last of `maxCalls` on, and for
columns that are not among `columns`. -/
structure Handler (S : Type) where
  id : String
  answer : Value := .null
  columns : Option (List String) := none
  maxCalls : Option Int := none
  actions : List (HandlerAction S) := []
deriving Repr, Inhabited

inductive Step
  /-- A step that cannot be described without a fault, which is all that it does. -/
  | fail (fault : Fault)
  | newDispatcher (name : String)
  /-- A builder with a dispatcher of that name, or with one of its own. -/
  | newBuilder (name : String) (dispatcher : Option String) (capabilities : Capabilities)
  | register (event : EventRef) (handler : Handler Step) (target : Target)
  | hasHandlers (event : EventRef) (target : Target)
  | clear (target : Target)
  | dispatch (event : EventRef) (target : Target) (diff : Option TableDiff)
      (column : Option Column)
  /-- Whether two builders use one registry. -/
  | sameEvents (first second : String)
  | createTable (builder table : String) (columns : List Column) (options : TableOptions)
  | alterTable (builder : String) (diff : TableDiff)
  | setCorrelationId (value : Value)
  | getCorrelationId
  | configureLogging (environment : Option String) (level : Value)
  | logState
  | log (logger : String) (level : Int) (message : String)
deriving Inhabited

/-- What a step gives back. -/
inductive Reply
  | done
  | flag (b : Bool)
  | statements (statements : Option (List Value))
  | correlationId (id : CorrelationId)
  | logState (handlers : Nat) (level effective : Int)
  | logger (name : String)
deriving Repr

/-- The reply itself, if the values in it can be written. -/
def Reply.writable (reply : Reply) : Except Fault Reply :=
  match reply with
  | .statements (some items) => (Value.list items).writable.map fun _ => reply
  | .correlationId (.given value) => value.writable.map fun _ => reply
  | _ => .ok reply

end CrateDdl
