import CrateDdl.OrderedMap
import CrateDdl.Text.Blank
import CrateDdl.Text.Case
import CrateDdl.Value.Basic

/-!
# Native type names

Finding the logical type for the type name that a database reports. Names are looked up without
outer blanks and in lower case; a name that is not there gives whatever the caller asks for.
-/

set_option autoImplicit false

namespace CrateDdl.Platform

/-- The types by native name. Names are in lower case, each at most once. -/
structure TypeMapping where
  entries : OrderedMap LogicalType
deriving Repr

namespace TypeMapping

/-- The mapping of entries, of which the last counts where names differ only in case. -/
def ofEntries (entries : List (String × LogicalType)) : TypeMapping :=
  ⟨.ofEntries ((OrderedMap.ofEntries entries).map fun entry => (Text.lower entry.1, entry.2))⟩

/-- The form in which a name is looked up. -/
def lookupName (native : String) : String := Text.lower (Text.strip native)

def find? (mapping : TypeMapping) (native : String) : Option LogicalType :=
  mapping.entries.get? (lookupName native)

/-- The type of a name, or what the caller gives for a name that is not there. -/
def logicalTypeFor (mapping : TypeMapping) (native : String) (default : Value) : Value :=
  match mapping.find? native with
  | some t => .logical t
  | none => default

def has (mapping : TypeMapping) (native : String) : Bool := (mapping.find? native).isSome

def nativeTypes (mapping : TypeMapping) : List String := mapping.entries.names

def size (mapping : TypeMapping) : Nat := mapping.entries.length

end TypeMapping

/-- The types that the database reports. -/
def nativeTypes : TypeMapping :=
  .ofEntries
    [("short", .smallint), ("integer", .integer), ("int", .integer), ("bool", .boolean),
     ("boolean", .boolean), ("string", .string), ("float", .float), ("double", .float),
     ("timestamp", .datetime)]

end CrateDdl.Platform
