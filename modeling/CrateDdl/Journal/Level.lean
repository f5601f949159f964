import CrateDdl.Fault
import CrateDdl.Text.Blank
import CrateDdl.Text.Case

/-!
# Log levels

Levels are whole numbers, some of which have names. A level may be asked for by number or by
name; the environment can ask by name only, in any case, and is never at fault: what it asks for
without there being such a name is the level for information.
-/

set_option autoImplicit false

namespace CrateDdl.Level

def notSet : Int := 0
def debug : Int := 10
def info : Int := 20
def warning : Int := 30
def error : Int := 40
def critical : Int := 50

/-- The named levels. A level with two names is shown by the first. -/
def names : List (String × Int) :=
  [("CRITICAL", critical), ("FATAL", critical), ("ERROR", error), ("WARNING", warning),
   ("WARN", warning), ("INFO", info), ("DEBUG", debug), ("NOTSET", notSet)]

/-- The level of a name, which has to be written in upper case. -/
def ofName? (name : String) : Option Int := names.lookup name

/-- How a level is shown. -/
def display (level : Int) : String :=
  match names.find? fun entry => entry.2 == level with
  | some entry => entry.1
  | none => "Level " ++ toString level

/-- The level that the environment asks for. -/
def ofEnvironment (setting : Option String) : Int :=
  (ofName? (Text.upper (Text.strip (setting.getD "")))).getD info

/-- The level that a caller asks for. -/
def ofValue : Value → Except Fault Int
  | .int n => .ok n
  | .bool b => .ok (if b then 1 else 0)
  | .text name =>
    match ofName? name with
    | some level => .ok level
    | none => .error (.unknownLevel name)
  | v => .error (.levelKind v)

end CrateDdl.Level
