import CrateDdl.Session.Context
import CrateDdl.Session.Step

/-!
# The state of a session

The journal, the registries with the names under which they are known, the builders, and the
calls of handlers made so far. A registry is known by its number, so that two names may mean the
same one; each registration of a handler has a number as well, under which its calls are counted.
-/

set_option autoImplicit false

namespace CrateDdl

/-- A call of a handler: what it was called with, and what its actions gave back, once it has
begun an action that is a step. -/
structure HandlerCall where
  handler : String
  context : List String
  diff : Option String
  column : Option String
  replies : Option (List Reply) := none
deriving Repr

/-- A handler with the number of its registration. -/
structure Registration where
  number : Nat
  handler : Handler Step

structure Builder where
  platform : Platform
  registry : Nat
deriving Repr

structure Session where
  /-- The log level that the environment asks for. -/
  environment : Option String := none
  journal : Journal := {}
  registries : List (Registry Registration) := []
  dispatchers : OrderedMap Nat := []
  builders : OrderedMap Builder := []
  /-- How often the handler of each registration has been called. -/
  callCounts : List Nat := []
  /-- The calls made in the current step. -/
  calls : List HandlerCall := []

namespace Session

/-! ## The journal -/

def configure (environment : Option String) (level : Value) : Act Session Unit :=
  Act.onPart Session.journal (fun journal s => { s with journal })
    (Journal.configure environment level)

/-- Writes a line to a logger whose full name is given. -/
def note (logger : String) (level : Int) (message : String) : Act Session Unit :=
  modify fun s => { s with journal := s.journal.write level logger message }

/-! ## Registries and builders -/

/-- A new registry without handlers: its number. -/
def newRegistry : Act Session Nat := do
  let s ← get
  set { s with registries := s.registries ++ [Registry.empty] }
  return s.registries.length

def registryAt (number : Nat) (s : Session) : Registry Registration :=
  s.registries.getD number Registry.empty

def changeRegistry (number : Nat) (change : Registry Registration → Registry Registration) :
    Act Session Unit :=
  modify fun s => { s with registries := s.registries.modify number change }

/-- What a map holds under a name, which has to be there. -/
def lookup {α : Type} (map : OrderedMap α) (name : String) : Act Session α :=
  match map.get? name with
  | some a => pure a
  | none => throw (.unknownKey (.text name))

def builder (name : String) : Act Session Builder := do
  lookup (← get).builders name

section
variable {α : Type} {map : OrderedMap α} {name : String} {a : α} {b : Builder} {s : Session}

theorem lookup_of_some (h : map.get? name = some a) : lookup map name s = .ok a s := by
  rw [lookup, h]
  rfl

theorem lookup_of_none (h : map.get? name = none) :
    lookup map name s = .error (.unknownKey (.text name)) s := by
  rw [lookup, h]
  rfl

theorem builder_of_some (h : s.builders.get? name = some b) : builder name s = .ok b s :=
  lookup_of_some h

theorem builder_of_none (h : s.builders.get? name = none) :
    builder name s = .error (.unknownKey (.text name)) s :=
  lookup_of_none h

end

/-- The number of the registry that a step is about. -/
def registryOf : Target → Act Session Nat
  | .dispatcher name => do lookup (← get).dispatchers name
  | .builder name => return (← builder name).registry

/-- Registers a handler under a new number. -/
def register (event : EventRef) (handler : Handler Step) (registry : Nat) : Act Session Unit := do
  let number := (← get).callCounts.length
  modify fun s => { s with callCounts := s.callCounts ++ [0] }
  changeRegistry registry (·.register event ⟨number, handler⟩)

/-! ## Calls of handlers -/

/-- Notes the begin of a call: its position among the calls. -/
def beginCall (handler : String) (ctx : Context) : Act Session Nat := do
  let s ← get
  let call : HandlerCall :=
    ⟨handler, ctx.names, ctx.diff.map (·.name), ctx.column.map (·.name), none⟩
  set { s with calls := s.calls ++ [call] }
  return s.calls.length

/-- Counts a call of a registration: how many there have been, with this one. -/
def countCall (number : Nat) : Act Session Nat := do
  let s ← get
  let counts := s.callCounts.modify number (· + 1)
  set { s with callCounts := counts }
  return counts.getD number 0

/-- Changes the list of replies of a call; a call without one gets one. -/
def changeReplies (position : Nat) (change : List Reply → List Reply) : Act Session Unit :=
  modify fun s =>
    { s with
      calls := s.calls.modify position fun call =>
        { call with replies := some (change (call.replies.getD [])) } }

end Session

end CrateDdl
