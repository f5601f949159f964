import CrateDdl.Act
import CrateDdl.OrderedMap
import CrateDdl.Value.Collection

/-!
# Hooks

Handlers that take part in the generation of statements. A registry holds the handlers of each
event in the order in which they were registered. A handler leaves an event alone by answering
null, and takes it over with statements: one text, or any collection, which may be empty. An event
is dispatched to the handlers that are registered when the dispatch begins.
-/

set_option autoImplicit false

namespace CrateDdl

/-- An event that handlers can be registered for. -/
structure HookEvent where
  name : String
deriving DecidableEq, Repr

namespace HookEvent

/-- A column is added to a table. -/
def addColumn : HookEvent := ⟨"alter_table_add_column"⟩

/-- A table is altered. -/
def alterTable : HookEvent := ⟨"alter_table"⟩

end HookEvent

/-- A reference to an event, by itself or by its name alone; both mean the same handlers. -/
inductive EventRef
  | event (event : HookEvent)
  | name (name : String)
deriving DecidableEq, Repr

namespace EventRef

def eventName : EventRef → String
  | event e => e.name
  | name s => s

end EventRef

/-- The handlers of each event, in the order in which they were registered, under its name. -/
structure Registry (H : Type) where
  entries : OrderedMap (List H)

namespace Registry

variable {H : Type}

def empty : Registry H := ⟨[]⟩

/-- The handlers of an event. -/
def handlers (event : EventRef) (r : Registry H) : List H :=
  (r.entries.get? event.eventName).getD []

def register (event : EventRef) (handler : H) (r : Registry H) : Registry H :=
  ⟨r.entries.put event.eventName (r.handlers event ++ [handler])⟩

def hasHandlers (event : EventRef) (r : Registry H) : Bool := !(r.handlers event).isEmpty

@[simp] theorem handlers_empty (event : EventRef) : (empty : Registry H).handlers event = [] := rfl

theorem handlers_register (event other : EventRef) (handler : H) (r : Registry H) :
    (r.register event handler).handlers other =
      r.handlers other ++ (if event.eventName = other.eventName then [handler] else []) := by
  by_cases h : event.eventName = other.eventName
  · simp [register, handlers, OrderedMap.get?_put, h]
  · simp [register, handlers, OrderedMap.get?_put, h]

end Registry

namespace Hook

/-- The statements in a handler's answer, if it takes the event over. A text is one statement. -/
def statements? (answer : Value) : Except Fault (Option (List Value)) :=
  match answer, answer.asText? with
  | .null, _ => .ok none
  | _, some _ => .ok (some [answer])
  | _, none => answer.items.map some

/-- Calls handlers one after the other. The answer is null if all leave the event alone, and
otherwise the statements of those that take it over, in order. -/
def collect {σ H : Type} (call : H → Act σ Value) : List H → Act σ (Option (List Value))
  | [] => pure none
  | handler :: rest => do
    let answer ← call handler
    let first ← Act.ofExcept (statements? answer)
    let later ← collect call rest
    return first.merge (· ++ ·) later

/-- Dispatches an event: calls the handlers that the registry holds for it now, each with the same
context. What becomes of the registry in the meantime does not matter. -/
def dispatch {σ C H : Type} (registry : σ → Registry H) (call : C → H → Act σ Value)
    (event : EventRef) (ctx : C) : Act σ (Option (List Value)) := do
  let handlers := (registry (← get)).handlers event
  collect (call ctx) handlers

end Hook

end CrateDdl
