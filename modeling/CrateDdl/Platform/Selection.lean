import CrateDdl.Platform.Basic

/-!
# Choosing a platform

A platform is chosen by name, or by an environment variable that holds a name. A name may go on
after a plus sign with the way to reach the database, which does not matter here.
-/

set_option autoImplicit false

namespace CrateDdl.Platform

/-- The names by which platforms are known, in alphabetical order. -/
def available : List String := ["crate", "cratedb"]

/-- The environment variable that names the platform. -/
def environmentVariable : String := "CRATEDBAL_PLATFORM"

/-- The platform that is taken where the environment names none and the caller does not say. -/
def usualName : String := "crate"

/-- The part of a name that decides: without outer blanks, in lower case, up to a plus sign. -/
def baseName (name : String) : String :=
  String.ofList ((Text.lower (Text.strip name)).toList.takeWhile (· ≠ '+'))

/-- A new platform of the given name. -/
def ofName (name : String) : Except Fault Platform :=
  if available.contains (baseName name) then .ok {}
  else
    .error (.configuration (.text
      ("Unknown platform '" ++ name ++ "'; expected one of " ++
        Text.commaSeparated available)))

/-- The platform that an environment variable names; if it is unset or blank, the default one. -/
def ofEnvironment (source : String) (setting default : Option String) : Except Fault Platform :=
  let named := Text.strip (setting.getD "")
  let chosen := if named.isEmpty then default.getD "" else named
  if chosen.isEmpty then
    .error (.configuration (.text ("Environment variable " ++ source ++ " is not set")))
  else ofName chosen

end CrateDdl.Platform
