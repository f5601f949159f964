import CrateDdl.Proofs.Course

/-!
# Diaries of sessions

A diary is a session that has no journal of its own, but writes down every request to it, those of
handlers as well; its journal is what these requests come to. Besides it notes the moments at which
steps have begun, at the top and in handlers. It may be kept while the environment changes.
-/

set_option autoImplicit false

namespace CrateDdl

open Act

/-- The begin of a step: the step, and the session in which it has begun. -/
structure Moment where
  step : Step
  session : Session

/-- A session whose journal was `start` in the beginning. -/
structure Diary (start : Journal) where
  /-- The session apart from its journal. -/
  rest : Session
  /-- What the journal has been asked for. -/
  requests : List Journal.Request := []
  /-- When steps have begun. -/
  moments : List Moment := []

namespace Diary

variable {start : Journal}

def journal (d : Diary start) : Journal := start.replay d.requests

def session (d : Diary start) : Session := { d.rest with journal := d.journal }

/-- The journal when it got the request of number `n`; behind the last one, the journal as it is
in the end. -/
def journalAt (d : Diary start) (n : Nat) : Journal := start.replay (d.requests.take n)

theorem journalAt_succ {d : Diary start} {n : Nat} {r : Journal.Request}
    (hn : d.requests[n]? = some r) : d.journalAt (n + 1) = (d.journalAt n).after r :=
  start.replay_take_succ hn

theorem journalAt_succ_of_none {d : Diary start} {n : Nat} (hn : d.requests[n]? = none) :
    d.journalAt (n + 1) = d.journalAt n :=
  start.replay_take_succ_of_none hn

theorem journalAt_length (d : Diary start) : d.journalAt d.requests.length = d.journal :=
  congrArg start.replay d.requests.take_length

def performed (d : Diary start) : List Step := d.moments.map (·.step)

/-- The sessions in which steps have begun, and the session as it is now. -/
def points (d : Diary start) : List Session := d.moments.map (·.session) ++ [d.session]

/-! ## Keeping a diary -/

/-- A computation on a session that does not touch the journal. -/
def onSession {α : Type} (act : Act Session α) : Act (Diary start) α :=
  Act.onPart session (fun rest d => { d with rest }) act

/-- Puts a request to the journal, for which `act` is what the journal does. -/
def ask {α : Type} (r : Journal.Request) (act : Act Journal α) : Act (Diary start) α :=
  Act.onPart journal (fun _ d => { d with requests := d.requests ++ [r] }) act

def note (logger : String) : Note (Diary start) := fun level message =>
  ask (.write level logger message) (modify (Journal.write level logger message))

def configure (environment : Option String) (level : Value) : Act (Diary start) Unit :=
  ask (.configure environment level) (Journal.configure environment level)

/-- Sets the journal up by what the environment has come to be at this request. -/
def setUp (changes : Nat → Option String → Option String) : Act (Diary start) Unit := do
  let d ← get
  configure (changes d.requests.length d.rest.environment) .null

/-- The last part of making a builder. -/
def putBuilder (changes : Nat → Option String → Option String) (name : String)
    (capabilities : Capabilities) (registry : Nat) : Act (Diary start) Reply := do
  setUp changes
  onSession (modify fun s =>
    { s with builders := s.builders.put name ⟨⟨capabilities⟩, registry⟩ })
  return .done

/-- The diary with the begin of a step. -/
def marked (step : Step) (d : Diary start) : Diary start :=
  { d with moments := d.moments ++ [⟨step, d.session⟩] }

section
variable (perform : Step → Act (Diary start) Reply)

def takeAction (position : Nat) : HandlerAction Step → Act (Diary start) Unit
  | .raise fault => throw fault
  | .perform step => do
    onSession (Session.changeReplies position id)
    let reply ← perform step
    onSession (Session.changeReplies position (· ++ [reply]))

def takeActions (position : Nat) : List (HandlerAction Step) → Act (Diary start) Unit
  | [] => pure ()
  | action :: rest => do
    takeAction perform position action
    takeActions position rest

def callHandler (ctx : Context) (r : Registration) : Act (Diary start) Value := do
  let position ← onSession (Session.beginCall r.handler.id ctx)
  let count ← onSession (Session.countCall r.number)
  if Session.takesPart r.handler ctx count then
    takeActions perform position r.handler.actions
    Act.ofExcept (ctx.fill r.handler.answer)
  else return .null

def fire (registry : Nat) (event : EventRef) (ctx : Context) :
    Act (Diary start) (Option (List Value)) :=
  Hook.dispatch (fun d => d.rest.registryAt registry) (callHandler perform) event ctx

def host (b : Builder) : Host (Diary start) :=
  .ofRegistry (note Session.builderLogger) (fun d => d.rest.registryAt b.registry)
    (callHandler perform)

/-- Performs a step. One that neither calls handlers nor asks the journal for anything is performed
in the session. -/
def performWith (changes : Nat → Option String → Option String) : Step → Act (Diary start) Reply
  | .newBuilder name dispatcher capabilities => do
    let registry ←
      match dispatcher with
      | some dispatcher => onSession (Session.registryOf (.dispatcher dispatcher))
      | none => onSession Session.newRegistry
    putBuilder changes name capabilities registry
  | .dispatch event target diff column => do
    let registry ← onSession (Session.registryOf target)
    return .statements (← fire perform registry event ⟨{}, diff, column⟩)
  | .createTable name table columns options => do
    let b ← onSession (Session.builder name)
    let statement ← b.platform.createTable (note Session.builderLogger) table columns options
    return .statements (some [.text statement])
  | .alterTable name diff => do
    let b ← onSession (Session.builder name)
    return .statements (some (← b.platform.alterTable (host perform b) diff))
  | .setCorrelationId value => do
    return .correlationId (← ask (.setId value) (modifyGet (Journal.setId value)))
  | .getCorrelationId => do
    return .correlationId (← ask .readId (modifyGet Journal.readId))
  | .configureLogging environment level => do
    configure environment level
    return .done
  | .log logger level message => do
    setUp changes
    note (Journal.loggerName logger) level message
    return .logger (Journal.loggerName logger)
  | step => onSession (Session.performWith (fun _ => throw .nestedTooDeeply) step)

end

def perform (changes : Nat → Option String → Option String) :
    Nat → Step → Act (Diary start) Reply
  | 0, _ => throw .nestedTooDeeply
  | depth + 1, step => do
    modify (marked step)
    Act.ofExcept (← performWith (perform changes depth) changes step).writable

theorem perform_succ (changes : Nat → Option String → Option String) (depth : Nat) (step : Step)
    (d : Diary start) :
    perform changes (depth + 1) step d =
      (performWith (perform changes depth) changes step >>= fun reply =>
        Act.ofExcept reply.writable) (d.marked step) := rfl

/-- The diary after one more step at the top. -/
def next (changes : Nat → Option String → Option String) (d : Diary start) (step : Step) :
    Diary start :=
  endState (perform changes Session.maxDepth step
    { d with rest := { d.rest with calls := [] }, requests := d.requests ++ [.turnPage] })

end Diary

/-- The diary of steps from the beginning. The environment is the given one in the beginning and
`changes n` of that at the request of number `n`. -/
def diary (changes : Nat → Option String → Option String) (environment : Option String)
    (steps : List Step) : Diary {} :=
  steps.foldl (Diary.next changes) { rest := { environment } }

end CrateDdl
