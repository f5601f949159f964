import CrateDdl.Session.State
import CrateDdl.Table.Alteration
import CrateDdl.Table.Creation

/-!
# Running a session

Performing steps one after the other. A step that fails leaves the session as far as it got and
does not end it. Handlers act on the session that calls them, so a step may contain others; how
deep they may nest is limited.
-/

set_option autoImplicit false

namespace CrateDdl.Session

/-! ## Handlers -/

/-- One action of the call at a position. -/
def takeAction (perform : Step → Act Session Reply) (position : Nat) :
    HandlerAction Step → Act Session Unit
  | .raise fault => throw fault
  | .perform step => do
    changeReplies position id
    let reply ← perform step
    changeReplies position (· ++ [reply])

def takeActions (perform : Step → Act Session Reply) (position : Nat) :
    List (HandlerAction Step) → Act Session Unit
  | [] => pure ()
  | action :: rest => do
    takeAction perform position action
    takeActions perform position rest

/-- The handler takes part in a call with this context, the given one in number. -/
def takesPart (handler : Handler Step) (ctx : Context) (count : Nat) : Bool :=
  handler.maxCalls.all (fun limit => (count : Int) ≤ limit) &&
    handler.columns.all fun names => ctx.column.any fun c => names.contains c.name

/-- Calls a handler: its answer, after its actions. -/
def callHandler (perform : Step → Act Session Reply) (ctx : Context) (r : Registration) :
    Act Session Value := do
  let position ← beginCall r.handler.id ctx
  let count ← countCall r.number
  if takesPart r.handler ctx count then
    takeActions perform position r.handler.actions
    Act.ofExcept (ctx.fill r.handler.answer)
  else return .null

/-- Dispatches an event to the handlers of the registry of a given number. -/
def fire (perform : Step → Act Session Reply) (registry : Nat) (event : EventRef)
    (ctx : Context) : Act Session (Option (List Value)) :=
  Hook.dispatch (registryAt registry) (callHandler perform) event ctx

/-! ## Steps -/

/-- The logger of builders. -/
def builderLogger : String := Journal.loggerName "schema.builder"

/-- The surroundings of a builder's requests about a table. -/
def host (perform : Step → Act Session Reply) (b : Builder) : Host Session :=
  .ofRegistry (note builderLogger) (registryAt b.registry) (callHandler perform)

/-- Performs a step, with `perform` for the steps that handlers take. -/
def performWith (perform : Step → Act Session Reply) : Step → Act Session Reply
  | .fail fault => throw fault
  | .newDispatcher name => do
    let registry ← newRegistry
    modify fun s => { s with dispatchers := s.dispatchers.put name registry }
    return .done
  | .newBuilder name dispatcher capabilities => do
    let registry ←
      match dispatcher with
      | some dispatcher => registryOf (.dispatcher dispatcher)
      | none => newRegistry
    configure (← get).environment .null
    modify fun s =>
      { s with builders := s.builders.put name ⟨⟨capabilities⟩, registry⟩ }
    return .done
  | .register event handler target => do
    register event handler (← registryOf target)
    return .done
  | .hasHandlers event target => do
    let registry ← registryOf target
    return .flag (((← get).registryAt registry).hasHandlers event)
  | .clear target => do
    changeRegistry (← registryOf target) fun _ => .empty
    return .done
  | .dispatch event target diff column => do
    return .statements (← fire perform (← registryOf target) event ⟨{}, diff, column⟩)
  | .sameEvents first second => do
    return .flag ((← builder first).registry == (← builder second).registry)
  | .createTable name table columns options => do
    let b ← builder name
    let statement ← b.platform.createTable (note builderLogger) table columns options
    return .statements (some [.text statement])
  | .alterTable name diff => do
    let b ← builder name
    return .statements (some (← b.platform.alterTable (host perform b) diff))
  | .setCorrelationId value => do
    let (id, journal) := (← get).journal.setId value
    modify fun s => { s with journal }
    return .correlationId id
  | .getCorrelationId => do
    let (id, journal) := (← get).journal.readId
    modify fun s => { s with journal }
    return .correlationId id
  | .configureLogging environment level => do
    configure environment level
    return .done
  | .logState => do
    let journal := (← get).journal
    return .logState journal.handlers journal.level journal.effectiveLevel
  | .log logger level message => do
    configure (← get).environment .null
    note (Journal.loggerName logger) level message
    return .logger (Journal.loggerName logger)

/-- Performs a step in which steps may nest up to a depth. A reply that cannot be written is a
fault, though the step is done by then. -/
def perform : Nat → Step → Act Session Reply
  | 0, _ => throw .nestedTooDeeply
  | depth + 1, step => do Act.ofExcept (← performWith (perform depth) step).writable

/-- How deep steps may nest. -/
def maxDepth : Nat := 10000

/-! ## Whole sessions -/

/-- What a step at the top of a session gives back, and what was written and called in it. -/
structure Answer where
  outcome : Except Fault Reply
  entries : List Entry
  calls : List HandlerCall

/-- Performs one step with a clean page for lines and calls. -/
def answer (step : Step) (s : Session) : Answer × Session :=
  let s := { s with calls := [], journal := { s.journal with entries := [] } }
  match perform maxDepth step s with
  | .ok reply s => (⟨.ok reply, s.journal.entries, s.calls⟩, s)
  | .error fault s => (⟨.error fault, s.journal.entries, s.calls⟩, s)

/-- Performs steps one after the other, whether they fail or not. -/
def run (s : Session) : List Step → List Answer
  | [] => []
  | step :: rest =>
    let (first, s) := answer step s
    first :: run s rest

end CrateDdl.Session
