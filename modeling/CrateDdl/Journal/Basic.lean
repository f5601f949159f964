import CrateDdl.Act
import CrateDdl.Journal.Level

/-!
# The journal

The log of the library: whether it has been set up, from which level on lines are written, and
the correlation id that marks the lines belonging together. The journal is set up once, by the
first use. An id that nobody has set is generated when it is first read, and then stays.
-/

set_option autoImplicit false

namespace CrateDdl

/-- The mark of lines that belong together: set by the host, or generated; generated ones are
counted from one. -/
inductive CorrelationId
  | given (value : Value)
  | generated (number : Nat)
deriving Repr

namespace CorrelationId

def display : CorrelationId → String
  | given value => value.display
  | generated number => "<generated-" ++ toString number ++ ">"

def isWritable : CorrelationId → Bool
  | given value => !value.isOversized
  | generated _ => true

end CorrelationId

/-- A line of the journal. -/
structure Entry where
  level : Int
  id : CorrelationId
  logger : String
  message : String
deriving Repr

namespace Entry

def render (e : Entry) : String :=
  String.intercalate " | " [Level.display e.level, e.id.display, e.logger, e.message]

/-- The line as it comes out; one whose id cannot be written is lost. -/
def line? (e : Entry) : Option String := if e.id.isWritable then some e.render else none

end Entry

structure Journal where
  /-- How many handlers write lines out. -/
  handlers : Nat := 0
  level : Int := Level.notSet
  current : Option CorrelationId := none
  /-- How many ids have been generated. -/
  generated : Nat := 0
  entries : List Entry := []
deriving Repr

namespace Journal

/-- The name that all loggers of the library begin with. -/
def rootName : String := "cratedbal"

/-- The full name of a logger. -/
def loggerName (name : String) : String := rootName ++ "." ++ name

/-- The journal has been set up. Lines are written only from then on. -/
def installed (j : Journal) : Bool := j.handlers != 0

/-- The least level that is written; where none is set, that of warnings. -/
def effectiveLevel (j : Journal) : Int := if j.level = Level.notSet then Level.warning else j.level

/-- Lines are written from the effective level on, and only if their level is positive. -/
def enabled (j : Journal) (level : Int) : Bool := 0 < level && j.effectiveLevel ≤ level

/-- Takes a given id as the current one; what is not truthy asks for a generated one. -/
def setId (value : Value) (j : Journal) : CorrelationId × Journal :=
  if value.truthy then (.given value, { j with current := some (.given value) })
  else
    let id := .generated (j.generated + 1)
    (id, { j with current := some id, generated := j.generated + 1 })

/-- The current id, which is generated if there is none. -/
def readId (j : Journal) : CorrelationId × Journal :=
  match j.current with
  | some id => (id, j)
  | none => j.setId .null

/-- Writes a line. A line that is not written reads no id. -/
def write (level : Int) (logger message : String) (j : Journal) : Journal :=
  if j.installed && j.enabled level then
    let (id, j) := j.readId
    { j with entries := j.entries ++ [⟨level, id, logger, message⟩] }
  else j

/-- Sets up the journal unless that has been done before. Without a level the environment
decides. A level that is at fault leaves the journal installed with the level it had. -/
def configure (environment : Option String) (level : Value) : Act Journal Unit := do
  if (← get).installed then return
  modify fun j => { j with handlers := j.handlers + 1 }
  let level ←
    match level with
    | .null => pure (Level.ofEnvironment environment)
    | _ => Act.ofExcept (Level.ofValue level)
  modify fun j => { j with level := level }

end Journal

end CrateDdl
